import Mathlib.Data.List.Nodup

/-!
Rows of a table under an `UPDATE` that hits one of them. `Replaced` says that
two lists differ in one row; what a key, a lookup or a count makes of the new
list follows from what it makes of the old one and of the two rows.
-/

namespace Soma.Rows

variable {Row Key : Type*} {rows next : List Row} {old new : Row}

/-- `next` is `rows` with `new` in the place of one `old`. -/
def Replaced (rows next : List Row) (old new : Row) : Prop :=
  ∃ before after, rows = before ++ old :: after ∧ next = before ++ new :: after

variable {selected : Row → Bool}

/-- An update whose condition exactly one row meets replaces that row. -/
theorem replaced_of_countP (change : Row → Row) (one : rows.countP selected = 1) :
    ∃ old, selected old = true ∧
      Replaced rows (rows.map fun row => if selected row then change row else row) old
        (change old) := by
  induction rows with
  | nil => simp at one
  | cons row rows ih =>
    by_cases hit : selected row = true
    · have none : rows.countP selected = 0 := by
        rw [List.countP_cons_of_pos hit] at one
        omega
      have kept : (rows.map fun row => if selected row then change row else row) = rows := by
        rw [List.countP_eq_zero] at none
        conv_rhs => rw [← List.map_id rows]
        refine List.map_congr_left fun other inside => ?_
        simp [none other inside]
      exact ⟨row, hit, [], rows, rfl, by simp [hit, kept]⟩
    · rw [List.countP_cons_of_neg hit] at one
      obtain ⟨old, hitOld, before, after, same, changed⟩ := ih one
      refine ⟨old, hitOld, row :: before, after, by simp [same], ?_⟩
      simp only [List.map_cons, hit, changed, List.cons_append]
      rfl

namespace Replaced

section

variable (replaced : Replaced rows next old new)

include replaced

theorem mem_old : old ∈ rows := by
  obtain ⟨_, _, rfl, -⟩ := replaced
  simp

theorem mem_new : new ∈ next := by
  obtain ⟨_, _, -, rfl⟩ := replaced
  simp

theorem mem_next (inside : row ∈ next) : row = new ∨ row ∈ rows := by
  obtain ⟨_, _, rfl, rfl⟩ := replaced
  simp only [List.mem_append, List.mem_cons] at inside ⊢
  tauto

theorem mem_rows (inside : row ∈ rows) : row = old ∨ row ∈ next := by
  obtain ⟨_, _, rfl, rfl⟩ := replaced
  simp only [List.mem_append, List.mem_cons] at inside ⊢
  tauto

theorem map_eq {key : Row → Key} (same : key new = key old) : next.map key = rows.map key := by
  obtain ⟨_, _, rfl, rfl⟩ := replaced
  simp [same]

/-- A count loses what it counted of the old row and gains what it counts of the new one. -/
theorem countP_add (counted : Row → Bool) :
    next.countP counted + (if counted old then 1 else 0) =
      rows.countP counted + (if counted new then 1 else 0) := by
  obtain ⟨_, _, rfl, rfl⟩ := replaced
  simp only [List.countP_append, List.countP_cons]
  omega

theorem filter_eq {wanted : Row → Bool}
    (unwantedOld : wanted old = false) (unwantedNew : wanted new = false) :
    next.filter wanted = rows.filter wanted := by
  obtain ⟨_, _, rfl, rfl⟩ := replaced
  simp [unwantedOld, unwantedNew]

end

variable {key : Row → Key}

/-- Under a unique key, a row of the old table other than the replaced one has another key. -/
theorem mem_next_keyed (replaced : Replaced rows next old new) (keyed : (rows.map key).Nodup)
    (same : key new = key old) (inside : row ∈ next) :
    row = new ∨ row ∈ rows ∧ key row ≠ key old := by
  obtain ⟨_, _, rfl, rfl⟩ := replaced
  simp only [List.map_append, List.map_cons, List.nodup_append, List.nodup_cons,
    List.mem_map, List.mem_cons] at keyed
  obtain ⟨-, ⟨fresh, -⟩, apart⟩ := keyed
  simp only [List.mem_append, List.mem_cons] at inside ⊢
  rcases inside with inside | rfl | inside
  · exact .inr ⟨.inl inside, apart _ ⟨row, inside, rfl⟩ _ (.inl rfl)⟩
  · exact .inl rfl
  · exact .inr ⟨.inr (.inr inside), fun clash => fresh ⟨row, inside, clash⟩⟩

/-- A lookup of another key finds what it found before. -/
theorem find?_ne [DecidableEq Key] (replaced : Replaced rows next old new)
    (same : key new = key old) (other : wanted ≠ key old) :
    next.find? (fun row => key row = wanted) = rows.find? (fun row => key row = wanted) := by
  obtain ⟨before, _, rfl, rfl⟩ := replaced
  simp [List.find?_append, same, Ne.symm other]

end Replaced

variable {key : Row → Key}

/-- A condition that the row with the key meets and no row of another key. -/
theorem countP_eq_one (keyed : (rows.map key).Nodup) (inside : old ∈ rows)
    (hit : selected old = true) (only : ∀ row ∈ rows, selected row = true → key row = key old) :
    rows.countP selected = 1 := by
  classical
  have counted := List.count_eq_one_of_mem keyed (List.mem_map_of_mem inside)
  rw [List.count, List.countP_map] at counted
  rw [← counted]
  refine List.countP_congr fun row present => ?_
  simp only [Function.comp_apply, beq_iff_eq]
  constructor
  · exact only row present
  · intro same
    rw [List.inj_on_of_nodup_map keyed present inside same]
    exact hit

/-- An update by a unique key replaces the row with the key. -/
theorem replaced_of_key [DecidableEq Key] (key : Row → Key) (change : Row → Row)
    (keyed : (rows.map key).Nodup) (inside : old ∈ rows) :
    Replaced rows (rows.map fun row => if key row = key old then change row else row) old
      (change old) := by
  have one : rows.countP (fun row => decide (key row = key old)) = 1 :=
    countP_eq_one keyed inside (by simp) fun row _ same => by simpa using same
  obtain ⟨_, hit, replaced⟩ := replaced_of_countP change one
  simp only [decide_eq_true_eq] at hit replaced
  obtain rfl := List.inj_on_of_nodup_map keyed replaced.mem_old inside hit
  exact replaced

theorem key_of_find? [DecidableEq Key]
    (found : rows.find? (fun row => key row = wanted) = some row) :
    row ∈ rows ∧ key row = wanted := by
  have selected := List.find?_some found
  exact ⟨List.mem_of_find?_eq_some found, of_decide_eq_true selected⟩

theorem find?_eq_some [DecidableEq Key] (keyed : (rows.map key).Nodup) (inside : row ∈ rows) :
    rows.find? (fun other => key other = key row) = some row := by
  induction rows with
  | nil => simp at inside
  | cons head rows ih =>
    rw [List.map_cons, List.nodup_cons] at keyed
    rcases List.mem_cons.mp inside with rfl | inside
    · simp
    · have apart : key head ≠ key row := fun clash =>
        keyed.1 (clash ▸ List.mem_map_of_mem inside)
      rw [List.find?_cons_of_neg (by simpa using apart)]
      exact ih keyed.2 inside

theorem Replaced.find?_eq [DecidableEq Key] (replaced : Replaced rows next old new)
    (keyed : (rows.map key).Nodup) (same : key new = key old) (wanted : Key) :
    next.find? (fun row => key row = wanted) =
      if wanted = key old then some new else rows.find? fun row => key row = wanted := by
  split
  · next here =>
    subst here
    rw [← same]
    exact find?_eq_some (replaced.map_eq same ▸ keyed) replaced.mem_new
  · next other => exact replaced.find?_ne same other

/-- What a keyed table finds after one of its rows was changed under the same key. -/
theorem Replaced.lookups [DecidableEq Key] (replaced : Replaced rows next old new)
    (key : Row → Key) (keyed : (rows.map key).Nodup) (same : key new = key old) :
    (next.map key).Nodup ∧ next.find? (fun row => key row = key new) = some new ∧
      ∀ wanted, wanted ≠ key old →
        next.find? (fun row => key row = wanted) = rows.find? (fun row => key row = wanted) := by
  have distinct : (next.map key).Nodup := replaced.map_eq same ▸ keyed
  exact ⟨distinct, find?_eq_some distinct replaced.mem_new,
    fun wanted other => replaced.find?_ne same other⟩

/-- Under a unique key a replacement is an update by the key. -/
theorem Replaced.eq_map [DecidableEq Key] (replaced : Replaced rows next old new)
    (keyed : (rows.map key).Nodup) :
    next = rows.map fun row => if key row = key old then new else row := by
  obtain ⟨before, after, rfl, rfl⟩ := replaced
  simp only [List.map_append, List.map_cons, List.nodup_append, List.nodup_cons, List.mem_map,
    List.mem_cons] at keyed ⊢
  obtain ⟨-, ⟨fresh, -⟩, apart⟩ := keyed
  have early : ∀ row ∈ before, key row ≠ key old := fun row inside =>
    apart _ ⟨row, inside, rfl⟩ _ (.inl rfl)
  have late : ∀ row ∈ after, key row ≠ key old := fun row inside same => fresh ⟨row, inside, same⟩
  congr 1
  · conv_lhs => rw [← List.map_id before]
    exact List.map_congr_left fun row inside => by rw [if_neg (early row inside), id]
  · rw [if_pos trivial]
    congr 1
    conv_lhs => rw [← List.map_id after]
    exact List.map_congr_left fun row inside => by rw [if_neg (late row inside), id]

theorem mem_concat (inside : row ∈ rows ++ [added]) : row ∈ rows ∨ row = added := by
  simpa using inside

theorem nodup_concat (keyed : (rows.map key).Nodup) (fresh : key row ∉ rows.map key) :
    ((rows ++ [row]).map key).Nodup := by
  rw [List.map_append, List.map_singleton, List.nodup_append]
  refine ⟨keyed, List.nodup_singleton _, ?_⟩
  intro held heldIn added addedIn same
  rw [List.mem_singleton] at addedIn
  exact fresh (addedIn ▸ same ▸ heldIn)

/-- Under a unique key a selection of rows of one key is at most one row. -/
theorem filter_keyed (keyed : (rows.map key).Nodup)
    (only : ∀ row ∈ rows, selected row = true → key row = wanted) :
    rows.filter selected = [] ∨ ∃ row, rows.filter selected = [row] := by
  have kept : ((rows.filter selected).map key).Nodup := keyed.sublist (List.filter_sublist.map key)
  have same : ∀ row ∈ rows.filter selected, key row = wanted := fun row inside =>
    only row (List.mem_filter.mp inside).1 (List.mem_filter.mp inside).2
  cases found : rows.filter selected with
  | nil => exact .inl rfl
  | cons first rest =>
    cases rest with
    | nil => exact .inr ⟨first, rfl⟩
    | cons second rest =>
      rw [found] at kept same
      refine absurd ?_ (List.nodup_cons.mp kept).1
      rw [same first (by simp), ← same second (by simp)]
      exact List.mem_map_of_mem (by simp)

/-- Under a unique key, a condition that tells no two rows apart counts one row at most. -/
theorem countP_le_one (keyed : (rows.map key).Nodup)
    (single : ∀ row ∈ rows, ∀ other ∈ rows, selected row = true → selected other = true →
      row = other) : rows.countP selected ≤ 1 := by
  by_cases some : ∃ row ∈ rows, selected row = true
  · obtain ⟨first, inside, hit⟩ := some
    have only : ∀ row ∈ rows, selected row = true → key row = key first :=
      fun row present selects => congrArg key (single row present first inside selects hit)
    rw [List.countP_eq_length_filter]
    rcases filter_keyed keyed only with none | ⟨row, one⟩
    · simp [none]
    · simp [one]
  · have none : rows.countP selected = 0 :=
      List.countP_eq_zero.mpr fun row inside hit => some ⟨row, inside, hit⟩
    omega

theorem find?_concat_ne [DecidableEq Key] (other : wanted ≠ key row) :
    (rows ++ [row]).find? (fun row => key row = wanted) =
      rows.find? (fun row => key row = wanted) := by
  simp [List.find?_append, Ne.symm other]

theorem find?_update [DecidableEq Key] (rows : List Row) (key : Row → Key) {change : Row → Row}
    (keeps : ∀ row, key (change row) = key row) (target wanted : Key) :
    (rows.map fun row => if key row = target then change row else row).find?
        (fun row => key row = wanted) =
      if wanted = target then (rows.find? fun row => key row = wanted).map change
      else rows.find? fun row => key row = wanted := by
  induction rows with
  | nil => simp
  | cons row rows ih =>
    by_cases hit : key row = wanted
    · by_cases same : wanted = target
      · subst same
        simp [hit, keeps]
      · simp [hit, same]
    · have missed : key (if key row = target then change row else row) ≠ wanted := by
        split
        · rw [keeps]
          exact hit
        · exact hit
      rw [List.map_cons, List.find?_cons_of_neg (by simpa using missed), ih,
        List.find?_cons_of_neg (by simpa using hit)]

theorem map_update [DecidableEq Key] {rows : List Row} (key : Row → Key) {change : Row → Row}
    (keeps : ∀ row, key (change row) = key row) (target : Key) :
    (rows.map fun row => if key row = target then change row else row).map key = rows.map key := by
  rw [List.map_map]
  refine List.map_congr_left fun row _ => ?_
  simp only [Function.comp_apply]
  split
  · exact keeps row
  · rfl

theorem filter_concat_ne [DecidableEq Key] (key : Row → Key) (other : wanted ≠ key row) :
    (rows ++ [row]).filter (fun row => key row = wanted) =
      rows.filter fun row => key row = wanted := by
  simp [Ne.symm other]

/-- Without the rows of one key, a selection by another key is the same. -/
theorem filter_deleted [DecidableEq Key] (key : Row → Key) (rows : List Row)
    (other : wanted ≠ gone) :
    (rows.filter fun row => key row ≠ gone).filter (fun row => key row = wanted) =
      rows.filter fun row => key row = wanted := by
  rw [List.filter_filter]
  refine List.filter_congr fun row _ => ?_
  by_cases same : key row = wanted
  · simp [same, other]
  · simp [same]

theorem find?_deleted [DecidableEq Key] (key : Row → Key) (rows : List Row)
    (other : wanted ≠ gone) :
    (rows.filter fun row => key row ≠ gone).find? (fun row => key row = wanted) =
      rows.find? fun row => key row = wanted := by
  rw [← List.head?_filter, ← List.head?_filter, filter_deleted key rows other]

/-- Under a unique key a selection by the key is at most one row. -/
theorem filter_key [DecidableEq Key] (keyed : (rows.map key).Nodup) (wanted : Key) :
    rows.filter (fun row => key row = wanted) = [] ∨
      ∃ row ∈ rows, rows.filter (fun row => key row = wanted) = [row] := by
  have only : ∀ row ∈ rows, decide (key row = wanted) = true → key row = wanted :=
    fun row _ selects => of_decide_eq_true selects
  refine (filter_keyed keyed only).imp_right fun ⟨row, one⟩ => ⟨row, ?_, one⟩
  have inside : row ∈ rows.filter fun row => key row = wanted := by
    rw [one]
    exact List.mem_singleton_self row
  exact (List.mem_filter.mp inside).1

section Expansion

variable [DecidableEq Key] {Out OutKey : Type*} {key : Row → Key} {outKey : Out → OutKey}
  {out : OutKey}

/-- What a selection by a unique key gives, has one key at most. -/
theorem sublist_map_filter {image : Row → Out} (keyed : (rows.map key).Nodup) (wanted : Key)
    (single : ∀ row ∈ rows, outKey (image row) = out) :
    (((rows.filter fun row => key row = wanted).map image).map outKey).Sublist [out] := by
  rcases filter_key keyed wanted with none | ⟨row, inside, one⟩
  · rw [none]
    exact List.nil_sublist _
  · rw [one, List.map_singleton, List.map_singleton, single row inside]

theorem sublist_flatMap_filter {expand : Row → List Out} (keyed : (rows.map key).Nodup)
    (wanted : Key) (single : ∀ row ∈ rows, ((expand row).map outKey).Sublist [out]) :
    (((rows.filter fun row => key row = wanted).flatMap expand).map outKey).Sublist [out] := by
  rcases filter_key keyed wanted with none | ⟨row, inside, one⟩
  · rw [none]
    exact List.nil_sublist _
  · rw [one, List.flatMap_singleton]
    exact single row inside

end Expansion

/-- Rows that expand to one row of their key at most expand to rows of distinct keys. -/
theorem nodup_flatMap {Out : Type*} {expand : Row → List Out} {outKey : Out → Key}
    (keyed : (rows.map key).Nodup)
    (single : ∀ row ∈ rows, ((expand row).map outKey).Sublist [key row]) :
    ((rows.flatMap expand).map outKey).Nodup := by
  have below : ((rows.flatMap expand).map outKey).Sublist (rows.map key) := by
    clear keyed
    induction rows with
    | nil => exact .slnil
    | cons row rows ih =>
      rw [List.flatMap_cons, List.map_append, List.map_cons, ← List.singleton_append]
      exact (single row List.mem_cons_self).append
        (ih fun other inside => single other (List.mem_cons_of_mem _ inside))
  exact keyed.sublist below

section Images

variable {Image Member : Type*} {related : Key → Image → Prop} {expand : Image → List Member}
  {named : Member → Key} {ids : List Key} {images : List Image}

/-- Something related to each identity. -/
theorem exists_images (each : ∀ id ∈ ids, ∃ image, related id image) :
    ∃ images, List.Forall₂ related ids images := by
  induction ids with
  | nil => exact ⟨[], .nil⟩
  | cons id ids ih =>
    obtain ⟨image, here⟩ := each id List.mem_cons_self
    obtain ⟨images, rest⟩ := ih fun other inside => each other (List.mem_cons_of_mem _ inside)
    exact ⟨image :: images, .cons here rest⟩

theorem exists_of_mem_images (each : List.Forall₂ related ids images) {image : Image}
    (inside : image ∈ images) : ∃ id ∈ ids, related id image := by
  induction each with
  | nil => cases inside
  | cons here _ ih =>
    rcases List.mem_cons.mp inside with rfl | inside
    · exact ⟨_, List.mem_cons_self, here⟩
    · obtain ⟨id, listed, found⟩ := ih inside
      exact ⟨id, List.mem_cons_of_mem _ listed, found⟩

/-- Members that name what their image is related to: those that name one identity are the
members of its image. -/
theorem filter_flatMap_images [DecidableEq Key] (each : List.Forall₂ related ids images)
    (distinct : ids.Nodup)
    (names : ∀ id image, related id image → ∀ member ∈ expand image, named member = id)
    {id : Key} (inside : id ∈ ids) :
    ∃ image, related id image ∧
      (images.flatMap expand).filter (fun member => named member = id) = expand image := by
  induction each with
  | nil => cases inside
  | @cons first image ids images here rest ih =>
    rw [List.nodup_cons] at distinct
    rw [List.flatMap_cons, List.filter_append]
    by_cases same : first = id
    · subst same
      have own : (expand image).filter (fun member => named member = first) = expand image :=
        List.filter_eq_self.mpr fun member expanded =>
          decide_eq_true (names _ _ here member expanded)
      have others : (images.flatMap expand).filter (fun member => named member = first) = [] := by
        refine List.filter_eq_nil_iff.mpr fun member listed same => distinct.1 ?_
        obtain ⟨other, imaged, expanded⟩ := List.mem_flatMap.mp listed
        obtain ⟨id, _, found⟩ := exists_of_mem_images rest imaged
        rwa [← (names id other found member expanded).symm.trans (of_decide_eq_true same)]
      exact ⟨image, here, by rw [own, others, List.append_nil]⟩
    · obtain ⟨found, relates, filtered⟩ :=
        ih distinct.2 (List.mem_of_ne_of_mem (Ne.symm same) inside)
      have none : (expand image).filter (fun member => named member = id) = [] :=
        List.filter_eq_nil_iff.mpr fun member expanded found =>
          same ((names _ _ here member expanded).symm.trans (of_decide_eq_true found))
      exact ⟨found, relates, by rw [none, List.nil_append, filtered]⟩

end Images

/-- A fold that keeps what it has or takes the row it meets ends with one of them. -/
theorem foldl_chooses {choose : Option Row → Row → Option Row}
    (chooses : ∀ latest row, choose latest row = some row ∨ choose latest row = latest)
    (folded : rows.foldl choose start = some last) : start = some last ∨ last ∈ rows := by
  induction rows generalizing start with
  | nil => exact .inl folded
  | cons row rows ih =>
    rcases ih folded with kept | later
    · rcases chooses start row with taken | left
      · rw [taken] at kept
        exact .inr (Option.some.inj kept ▸ List.mem_cons_self)
      · exact .inl (left ▸ kept)
    · exact .inr (List.mem_cons_of_mem _ later)

end Soma.Rows
