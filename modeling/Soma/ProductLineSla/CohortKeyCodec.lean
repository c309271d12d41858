import Soma.Foundation.CanonicalLength
import Soma.Foundation.CanonicalReading
import Soma.ProductLineSla.CohortKey

/-!
`decode_cohort_key`, the inverse of `encode_cohort_key`. The layers of the decoder each
accept more than one spelling of a key: base 64 with either alphabet, with its own padding
or with tail bits that nothing reads, JSON with blanks, escapes and fields in any order.
What it returns is encoded again and compared, and what the encoder writes passes every
layer.
-/

namespace Soma.ProductLineSla

open Foundation Tickets

/-! ## The decoder -/

/-- The six bits of a character; `altchars` adds `-` and `_` to the alphabet and keeps
`+` and `/` in it. -/
def sextet? (character : Char) : Option Nat :=
  if character.isUpper then some (character.toNat - 65)
  else if character.isLower then some (character.toNat - 71)
  else if character.isDigit then some (character.toNat + 4)
  else if character ∈ ['-', '+'] then some 62
  else if character ∈ ['_', '/'] then some 63
  else none

/-- `binascii.a2b_base64(.., strict_mode=True)` after some characters: their number in the
quad, the bits of the last one that no byte holds yet, and the padding. -/
def a2bBase64 : Nat → Nat → Nat → Bool → List Char → Option (List Nat)
  | quadPos, _, _, _, [] => if quadPos = 0 then some [] else none
  | quadPos, leftchar, pads, paddingStarted, character :: rest =>
    if character = '=' then
      if 2 ≤ quadPos ∧ 4 ≤ quadPos + (pads + 1) then if rest = [] then some [] else none
      else a2bBase64 quadPos leftchar (if 2 ≤ quadPos then pads + 1 else pads) true rest
    else match sextet? character with
      | none => none
      | some bits =>
        if paddingStarted then none
        else match quadPos with
          | 0 => a2bBase64 1 bits 0 false rest
          | 1 => (a2bBase64 2 (bits % 16) 0 false rest).map (List.cons (leftchar * 4 + bits / 16))
          | 2 => (a2bBase64 3 (bits % 4) 0 false rest).map (List.cons (leftchar * 16 + bits / 4))
          | _ => (a2bBase64 0 0 0 false rest).map (List.cons (leftchar * 64 + bits))

/-- `base64.b64decode(.., altchars=b"-_", validate=True)`. -/
def b64decode (text : List Char) : Option (List Nat) :=
  if text.head? = some '=' then none else a2bBase64 0 0 0 false text

/-- The padding `decode_cohort_key` restores. -/
def base64Padding (encoded : List Char) : List Char :=
  List.replicate ((4 - encoded.length % 4) % 4) '='

/-- The severity of a text. -/
def cohortSeverity? (text : String) : Option SeverityClass :=
  [SeverityClass.critical, .major, .minor, .nonFaultInquiry].find? (·.text = text)

/-- The fields of a cohort key but its schema. -/
def cohortKeyFields : List String :=
  ["calendar_month", "customer_org_id", "contract_id", "contract_product_line_id", "severity",
    "policy_tier_id"]

/-- `payload[key]` of a field that has to be a text. -/
def textField (fields : List (String × Json)) (key : String) : Except Raised String :=
  match fields.lookup key with
  | some (.str text) => .ok text
  | _ => .error (validationError "cohort key field type is invalid")

/-- The checks of `decode_cohort_key` on the payload. -/
def cohortKeyPayload (zone : GuayaquilZone) (payload : Json) : Except Raised CohortKeyParts := do
  let .obj fields := payload | .error (validationError "cohort key shape is invalid")
  let keys := fields.map (·.1)
  ensure ((∀ key ∈ keys, key ∈ "schema" :: cohortKeyFields) ∧
      ∀ key ∈ "schema" :: cohortKeyFields, key ∈ keys)
    (validationError "cohort key shape is invalid")
  ensure (textField fields "schema" = .ok "SOMA_SLA_COHORT_KEY_V1")
    (validationError "cohort key schema is invalid")
  let calendarMonth ← textField fields "calendar_month"
  let customerOrgId ← textField fields "customer_org_id"
  let contractId ← textField fields "contract_id"
  let contractProductLineId ← textField fields "contract_product_line_id"
  let severityText ← textField fields "severity"
  let policyTierId ← textField fields "policy_tier_id"
  requireUuid4 customerOrgId
  requireUuid4 contractId
  requireUuid4 contractProductLineId
  requireUuid4 policyTierId
  match cohortSeverity? severityText with
  | none => .error (validationError "cohort key severity is invalid")
  | some severity => do
    let _ ← canonicalMonthBounds zone calendarMonth
    return ⟨calendarMonth, customerOrgId, contractId, contractProductLineId, severity, policyTierId⟩

def decodeCohortKey (zone : GuayaquilZone) (floatText : String → Option String) (value : String) :
    Except Raised CohortKeyParts := do
  ensure ("v1.".toList.isPrefixOf value.toList ∧ value.length ≤ 2048)
    (validationError "cohort key is invalid")
  let encoded := value.toList.drop 3
  ensure (encoded ≠ []) (validationError "cohort key is invalid")
  match b64decode (encoded ++ base64Padding encoded) with
  | none => .error (validationError "cohort key is invalid")
  | some raw => do
    let payload ← loadsStrictBytes (jsonLoads floatText) 1536
      ⟨(raw.map UInt8.ofNat).toArray⟩
    let parts ← cohortKeyPayload zone payload
    let canonical ← encodeCohortKey zone parts
    ensure (canonical = value) (validationError "cohort key is not canonical")
    return parts

/-! ## Base 64 -/

section Base64

theorem sextet_base64Digit : ∀ bits < 64, sextet? (base64Digit bits) = some bits := by
  decide +kernel

theorem base64Digit_ne_pad : ∀ bits < 64, base64Digit bits ≠ '=' := by decide +kernel

variable {bits leftchar : Nat} {rest : List Char}

theorem a2bBase64_first (small : bits < 64) :
    a2bBase64 0 leftchar 0 false (base64Digit bits :: rest) = a2bBase64 1 bits 0 false rest := by
  simp [a2bBase64, base64Digit_ne_pad bits small, sextet_base64Digit bits small]

theorem a2bBase64_second (small : bits < 64) :
    a2bBase64 1 leftchar 0 false (base64Digit bits :: rest) =
      (a2bBase64 2 (bits % 16) 0 false rest).map (List.cons (leftchar * 4 + bits / 16)) := by
  simp [a2bBase64, base64Digit_ne_pad bits small, sextet_base64Digit bits small]

theorem a2bBase64_third (small : bits < 64) :
    a2bBase64 2 leftchar 0 false (base64Digit bits :: rest) =
      (a2bBase64 3 (bits % 4) 0 false rest).map (List.cons (leftchar * 16 + bits / 4)) := by
  simp [a2bBase64, base64Digit_ne_pad bits small, sextet_base64Digit bits small]

theorem a2bBase64_fourth (small : bits < 64) :
    a2bBase64 3 leftchar 0 false (base64Digit bits :: rest) =
      (a2bBase64 0 0 0 false rest).map (List.cons (leftchar * 64 + bits)) := by
  simp [a2bBase64, base64Digit_ne_pad bits small, sextet_base64Digit bits small]

/-- Decoding restores the bytes that were encoded. -/
theorem a2bBase64_urlsafe (small : ∀ byte ∈ bytes, byte < 256) :
    a2bBase64 0 0 0 false (urlsafeBase64 bytes ++ base64Padding (urlsafeBase64 bytes)) =
      some bytes := by
  induction bytes using urlsafeBase64.induct with
  | case1 a b c rest ih =>
    have smallA := small a (by simp)
    have smallB := small b (by simp)
    have smallC := small c (by simp)
    have padding : base64Padding (urlsafeBase64 (a :: b :: c :: rest)) =
        base64Padding (urlsafeBase64 rest) := by
      rw [base64Padding, base64Padding, urlsafeBase64, List.length_cons, List.length_cons,
        List.length_cons, List.length_cons]
      congr 1
      omega
    have more := ih fun byte inside => small byte (by simp [inside])
    rw [padding, urlsafeBase64, List.cons_append, List.cons_append, List.cons_append,
      List.cons_append, a2bBase64_first (by omega), a2bBase64_second (by omega),
      a2bBase64_third (by omega), a2bBase64_fourth (by omega), more]
    simp only [Option.map_some, Option.some.injEq, List.cons.injEq, and_true]
    omega
  | case2 a b =>
    have smallA := small a (by simp)
    have smallB := small b (by simp)
    have padding : base64Padding (urlsafeBase64 [a, b]) = ['='] := rfl
    rw [padding, urlsafeBase64, List.cons_append, List.cons_append, List.cons_append,
      a2bBase64_first (by omega), a2bBase64_second (by omega), a2bBase64_third (by omega)]
    simp only [List.nil_append, a2bBase64, if_pos, Option.map_some, Option.some.injEq,
      List.cons.injEq, and_true, Nat.reduceLeDiff, Nat.reduceAdd, and_self]
    omega
  | case3 a =>
    have smallA := small a (by simp)
    have padding : base64Padding (urlsafeBase64 [a]) = ['=', '='] := rfl
    rw [padding, urlsafeBase64, List.cons_append, List.cons_append,
      a2bBase64_first (by omega), a2bBase64_second (by omega)]
    simp [a2bBase64]
    omega
  | case4 => rfl

theorem b64decode_urlsafe (small : ∀ byte ∈ bytes, byte < 256) :
    b64decode (urlsafeBase64 bytes ++ base64Padding (urlsafeBase64 bytes)) = some bytes := by
  have first : (urlsafeBase64 bytes ++ base64Padding (urlsafeBase64 bytes)).head? ≠ some '=' := by
    cases bytes using urlsafeBase64.induct with
    | case1 a b c rest =>
      have smallA := small a (by simp)
      simpa [urlsafeBase64] using base64Digit_ne_pad (a / 4) (by omega)
    | case2 a b =>
      have smallA := small a (by simp)
      simpa [urlsafeBase64] using base64Digit_ne_pad (a / 4) (by omega)
    | case3 a =>
      have smallA := small a (by simp)
      simpa [urlsafeBase64] using base64Digit_ne_pad (a / 4) (by omega)
    | case4 => decide
  rw [b64decode, if_neg first, a2bBase64_urlsafe small]

theorem urlsafeBase64_length (bytes : List Nat) :
    3 * (urlsafeBase64 bytes).length ≤ 4 * bytes.length + 2 := by
  induction bytes using urlsafeBase64.induct with
  | case1 a b c rest ih =>
    simp only [urlsafeBase64, List.length_cons]
    omega
  | case2 a b => simp [urlsafeBase64]
  | case3 a => simp [urlsafeBase64]
  | case4 => simp [urlsafeBase64]

end Base64

/-- The bytes of a text, as `a2b_base64` gives them back, are read as the text. -/
theorem loadsStrictBytes_text {parse : String → Option Json} {text : String}
    (small : text.utf8ByteSize ≤ maxBytes) (parsed : parse text = some payload) :
    loadsStrictBytes parse maxBytes
      ⟨((text.toUTF8.data.toList.map UInt8.toNat).map UInt8.ofNat).toArray⟩ = .ok payload := by
  have same : (⟨((text.toUTF8.data.toList.map UInt8.toNat).map UInt8.ofNat).toArray⟩ : ByteArray) =
      text.toByteArray := by
    simp [Function.comp_def, String.toUTF8]
  have decoded : String.fromUTF8? text.toByteArray = some text := by
    rw [String.fromUTF8?, dif_pos text.isValidUTF8]
    rfl
  have size : text.toByteArray.size ≤ maxBytes := small
  rw [same, loadsStrictBytes, ensure, if_pos size, decoded]
  change loadsStrict parse maxBytes text = _
  rw [loadsStrict, ensure, if_pos small, parsed]
  rfl

/-! ## The text of a key -/

section Text

/-- The fields of a key in the order of its canonical text. -/
def keyFields (parts : CohortKeyParts) : List (String × String) :=
  [("calendar_month", parts.calendarMonth), ("contract_id", parts.contractId),
    ("contract_product_line_id", parts.contractProductLineId),
    ("customer_org_id", parts.customerOrgId), ("policy_tier_id", parts.policyTierId),
    ("schema", "SOMA_SLA_COHORT_KEY_V1"), ("severity", parts.severity.text)]

def keyText (parts : CohortKeyParts) : String := "\x7b" ++ plainFields (keyFields parts) ++ "\x7d"

theorem canonicalJson_key (parts : CohortKeyParts) :
    canonicalJson (.obj [
      ("schema", .str "SOMA_SLA_COHORT_KEY_V1"),
      ("calendar_month", .str parts.calendarMonth),
      ("customer_org_id", .str parts.customerOrgId),
      ("contract_id", .str parts.contractId),
      ("contract_product_line_id", .str parts.contractProductLineId),
      ("severity", .str parts.severity.text),
      ("policy_tier_id", .str parts.policyTierId)]) = .ok (keyText parts) := by
  refine (canonicalJson_sorted ((keyFields parts).map plainField)
    (by simp only [dumpsFields, dumps]; rfl) ?_ (fun part => ?_) ?_).trans ?_
  · simp only [List.map_cons, List.map_nil]
    decide
  · simp only [keyFields, plainField, List.map_cons, List.map_nil, List.mem_cons,
      List.not_mem_nil]
    tauto
  · simp only [keyFields, plainField, List.map_cons, List.map_nil]
    decide
  · rw [List.map_map]
    rfl

theorem jsonLoads_key (floatText : String → Option String) (parts : CohortKeyParts) :
    jsonLoads floatText (keyText parts) =
      some (.obj ((keyFields parts).map fun field => (field.1, .str field.2))) := by
  have encoded : dumpsFields ((keyFields parts).map fun field => (field.1, .str field.2)) =
      some ((keyFields parts).map plainField) := by
    simp only [keyFields, List.map_cons, List.map_nil, dumpsFields, dumps]
    rfl
  have increasing : (((keyFields parts).map fun field => (field.1, Json.str field.2)).map
      (·.1)).Pairwise (· < ·) := by
    simp only [keyFields, List.map_cons, List.map_nil]
    decide
  have keyed := increasing.imp fun less => String.ne_of_lt less
  have text := dumps_obj_sorted _ encoded keyed (fun _ => Iff.rfl) increasing
  rw [List.map_map] at text
  have each : ∀ field ∈ (keyFields parts).map fun field => (field.1, Json.str field.2),
      field.2.Strict floatText ∧ field.2.arranged = field.2 := by
    intro field inside
    obtain ⟨part, -, rfl⟩ := List.mem_map.mp inside
    exact ⟨.str part.2, rfl⟩
  rw [← arranged_sorted increasing fun field inside => (each field inside).2]
  exact jsonLoads_dumps (.obj keyed fun field inside => (each field inside).1) rfl text

theorem plain_of_code {character : Char} (code : character.toNat = 45 ∨
    (48 ≤ character.toNat ∧ character.toNat ≤ 57) ∨
    (97 ≤ character.toNat ∧ character.toNat ≤ 122)) : Plain character := by
  refine ⟨?_, ?_, by omega⟩
  · rintro rfl
    revert code
    decide
  · rintro rfl
    revert code
    decide

theorem isLowerHex_code (lowerHex : isLowerHex character = true) :
    (48 ≤ character.toNat ∧ character.toNat ≤ 57) ∨
      (97 ≤ character.toNat ∧ character.toNat ≤ 122) := by
  have told : ('0' ≤ character ∧ character ≤ '9') ∨ ('a' ≤ character ∧ character ≤ 'f') := by
    simpa [isLowerHex] using lowerHex
  simp only [Char.le_def, UInt32.le_iff_toNat_le] at told
  change (48 ≤ character.toNat ∧ character.toNat ≤ 57) ∨
    (97 ≤ character.toNat ∧ character.toNat ≤ 102) at told
  omega

theorem uuid4_characters (canonical : isUuid4 text = true) :
    text.toList.length = 36 ∧ PlainText text := by
  simp only [isUuid4, Bool.and_eq_true, decide_eq_true_eq, List.all_eq_true, List.mem_range]
    at canonical
  obtain ⟨size, each⟩ := canonical
  refine ⟨size, fun character inside => ?_⟩
  obtain ⟨index, below, rfl⟩ := List.getElem_of_mem inside
  have told := each index (size ▸ below)
  rw [List.getElem?_eq_getElem below] at told
  generalize text.toList[index] = character at told ⊢
  dsimp only at told
  split at told
  · rw [of_decide_eq_true told]
    decide
  · split at told
    · rw [of_decide_eq_true told]
      decide
    · split at told
      · have listed := of_decide_eq_true told
        simp only [List.mem_cons, List.not_mem_nil, or_false] at listed
        rcases listed with rfl | rfl | rfl | rfl <;> decide
      · exact plain_of_code (.inr (isLowerHex_code told))

theorem month_characters (read : monthParts calendarMonth = some parts) :
    calendarMonth.toList.length = 7 ∧ PlainText calendarMonth := by
  unfold monthParts at read
  split at read
  · rename_i y₁ y₂ y₃ y₄ dash m₁ m₂ characters
    dsimp only at read
    split at read
    case isFalse => cases read
    rename_i fits
    obtain ⟨digits, rfl, -⟩ := fits
    rw [List.all_eq_true] at digits
    rw [PlainText, characters]
    refine ⟨rfl, fun character inside => plain_of_code ?_⟩
    by_cases dash : character = '-'
    · subst dash
      exact .inl rfl
    · have digit : character.isDigit = true := digits character (by
        simp only [List.mem_cons, List.not_mem_nil, or_false] at inside ⊢
        tauto)
      simp only [Char.isDigit, Bool.and_eq_true, decide_eq_true_eq, ge_iff_le,
        UInt32.le_iff_toNat_le] at digit
      exact .inr (.inl digit)
  · cases read

theorem severity_characters (severity : SeverityClass) :
    severity.text.toList.length ≤ 17 ∧ PlainText severity.text := by
  cases severity <;> decide +kernel

/-- What `encode_cohort_key` asks of a key. -/
structure ValidKey (zone : GuayaquilZone) (parts : CohortKeyParts) : Prop where
  customerOrgId : isUuid4 parts.customerOrgId = true
  contractId : isUuid4 parts.contractId = true
  contractProductLineId : isUuid4 parts.contractProductLineId = true
  policyTierId : isUuid4 parts.policyTierId = true
  calendarMonth : ∃ bounds, canonicalMonthBounds zone parts.calendarMonth = .ok bounds

variable {zone : GuayaquilZone} {parts : CohortKeyParts}

theorem ValidKey.month (valid : ValidKey zone parts) :
    parts.calendarMonth.toList.length = 7 ∧ PlainText parts.calendarMonth := by
  obtain ⟨_, read⟩ := valid.calendarMonth
  cases found : monthParts parts.calendarMonth with
  | none => simp [canonicalMonthBounds, found] at read
  | some month => exact month_characters found

theorem ValidKey.plain (valid : ValidKey zone parts) :
    ∀ field ∈ keyFields parts, PlainText field.1 ∧ PlainText field.2 := by
  simp only [keyFields, List.forall_mem_cons, List.not_mem_nil, false_implies, implies_true,
    and_true]
  exact ⟨⟨by decide +kernel, valid.month.2⟩,
    ⟨by decide +kernel, (uuid4_characters valid.contractId).2⟩,
    ⟨by decide +kernel, (uuid4_characters valid.contractProductLineId).2⟩,
    ⟨by decide +kernel, (uuid4_characters valid.customerOrgId).2⟩,
    ⟨by decide +kernel, (uuid4_characters valid.policyTierId).2⟩,
    ⟨by decide +kernel, by decide +kernel⟩,
    ⟨by decide +kernel, (severity_characters parts.severity).2⟩⟩

/-- The text of a key is short. -/
theorem ValidKey.size (valid : ValidKey zone parts) : (keyText parts).utf8ByteSize ≤ 1320 := by
  have fields : (plainFields (keyFields parts)).toList.length ≤ 328 := by
    refine (plainFields_length valid.plain).trans ?_
    have calendarMonth := valid.month.1
    have customerOrgId := (uuid4_characters valid.customerOrgId).1
    have contractId := (uuid4_characters valid.contractId).1
    have contractProductLineId := (uuid4_characters valid.contractProductLineId).1
    have policyTierId := (uuid4_characters valid.policyTierId).1
    have severity := (severity_characters parts.severity).1
    have names : "calendar_month".toList.length = 14 ∧ "contract_id".toList.length = 11 ∧
        "contract_product_line_id".toList.length = 24 ∧ "customer_org_id".toList.length = 15 ∧
        "policy_tier_id".toList.length = 14 ∧ "schema".toList.length = 6 ∧
        "SOMA_SLA_COHORT_KEY_V1".toList.length = 22 ∧ "severity".toList.length = 8 := by
      decide +kernel
    simp only [keyFields, List.map_cons, List.map_nil, List.sum_cons, List.sum_nil]
    omega
  have size := utf8ByteSize_le (keyText parts)
  rw [keyText, String.length_append, String.length_append, ← String.length_toList
    (s := plainFields (keyFields parts))] at size
  have braces : ("\x7b" : String).length = 1 ∧ ("\x7d" : String).length = 1 := by decide
  rw [keyText]
  omega

end Text

/-! ## The codec -/

section Codec

variable {zone : GuayaquilZone} {parts : CohortKeyParts} {value : String}

/-- The opaque text of a key. -/
def keyValue (parts : CohortKeyParts) : String :=
  "v1." ++ String.ofList (urlsafeBase64 ((keyText parts).toUTF8.data.toList.map UInt8.toNat))

theorem encodeCohortKey_ok :
    encodeCohortKey zone parts = .ok value ↔ ValidKey zone parts ∧ value = keyValue parts := by
  simp only [encodeCohortKey, requireUuid4, canonicalJson_key, except_bind_ok, ensure_ok]
  constructor
  · rintro ⟨_, customer, _, contract, _, productLine, _, tier, bounds, month, _, encoded, returned⟩
    cases encoded
    cases returned
    exact ⟨⟨customer, contract, productLine, tier, bounds, month⟩, rfl⟩
  · rintro ⟨⟨customer, contract, productLine, tier, bounds, month⟩, rfl⟩
    exact ⟨(), customer, (), contract, (), productLine, (), tier, bounds, month, _, rfl, rfl⟩

theorem keyText_toList (parts : CohortKeyParts) :
    (keyValue parts).toList =
      'v' :: '1' :: '.' :: urlsafeBase64 ((keyText parts).toUTF8.data.toList.map UInt8.toNat) := by
  rw [keyValue, String.toList_append, String.toList_ofList, String.toList_ofList,
    List.cons_append, List.cons_append, List.cons_append, List.nil_append]

theorem keyBytes_small (parts : CohortKeyParts) :
    ∀ byte ∈ (keyText parts).toUTF8.data.toList.map UInt8.toNat, byte < 256 := by
  intro byte inside
  obtain ⟨small, -, rfl⟩ := List.mem_map.mp inside
  exact small.toNat_lt

theorem keyBytes_length (parts : CohortKeyParts) :
    ((keyText parts).toUTF8.data.toList.map UInt8.toNat).length = (keyText parts).utf8ByteSize := by
  rw [List.length_map]
  rfl

theorem cohortKeyPayload_key (valid : ValidKey zone parts) :
    cohortKeyPayload zone (.obj ((keyFields parts).map fun field => (field.1, .str field.2))) =
      .ok parts := by
  obtain ⟨_, month⟩ := valid.calendarMonth
  have severity : cohortSeverity? parts.severity.text = some parts.severity := by
    cases parts.severity <;> decide +kernel
  have keys : (∀ key ∈ ((keyFields parts).map fun field => (field.1, Json.str field.2)).map (·.1),
      key ∈ "schema" :: cohortKeyFields) ∧ ∀ key ∈ "schema" :: cohortKeyFields,
        key ∈ ((keyFields parts).map fun field => (field.1, Json.str field.2)).map (·.1) := by
    simp only [keyFields, List.map_cons, List.map_nil]
    decide +kernel
  rw [cohortKeyPayload]
  simp only [ensure, if_pos keys]
  simp only [keyFields, textField, List.map_cons, List.map_nil, List.lookup]
  simp [requireUuid4, ensure, valid.customerOrgId, valid.contractId, valid.contractProductLineId,
    valid.policyTierId, severity, month, bind, Except.bind, pure, Except.pure]

theorem decodeCohortKey_of {floatText : String → Option String}
    (marked : "v1.".toList.isPrefixOf value.toList ∧ value.length ≤ 2048)
    (rest : value.toList.drop 3 = encoded) (inhabited : encoded ≠ [])
    (decoded : b64decode (encoded ++ base64Padding encoded) = some raw)
    (read : loadsStrictBytes (jsonLoads floatText) 1536 ⟨(raw.map UInt8.ofNat).toArray⟩ =
      .ok payload) (found : cohortKeyPayload zone payload = .ok parts)
    (same : encodeCohortKey zone parts = .ok value) :
    decodeCohortKey zone floatText value = .ok parts := by
  rw [decodeCohortKey, ensure, if_pos marked]
  simp only [rest, ensure, if_pos inhabited, decoded, read, found, same, if_pos, bind, Except.bind,
    pure, Except.pure]

/-- A valid key is decoded from its text. -/
theorem decodeCohortKey_key (floatText : String → Option String) (valid : ValidKey zone parts) :
    decodeCohortKey zone floatText (keyValue parts) = .ok parts := by
  have size := valid.size
  have bytes := keyBytes_length parts
  have short := urlsafeBase64_length ((keyText parts).toUTF8.data.toList.map UInt8.toNat)
  have marked : "v1.".toList.isPrefixOf (keyValue parts).toList ∧
      (keyValue parts).length ≤ 2048 := by
    rw [← String.length_toList, keyText_toList]
    refine ⟨rfl, ?_⟩
    simp only [List.length_cons]
    omega
  have inhabited : urlsafeBase64 ((keyText parts).toUTF8.data.toList.map UInt8.toNat) ≠ [] := by
    intro empty
    have decoded := b64decode_urlsafe (keyBytes_small parts)
    rw [empty] at decoded
    have none : (keyText parts).utf8ByteSize = 0 := by
      rw [← bytes, ← Option.some.inj decoded]
      rfl
    have braces : (keyText parts).length = 0 := by
      rw [String.utf8ByteSize_eq_zero_iff.mp none]
      rfl
    rw [keyText, String.length_append, String.length_append] at braces
    have brace : ("\x7b" : String).length = 1 := by decide
    omega
  refine decodeCohortKey_of marked ?_ inhabited (b64decode_urlsafe (keyBytes_small parts))
    (loadsStrictBytes_text (by omega) (jsonLoads_key floatText parts)) (cohortKeyPayload_key valid)
    (encodeCohortKey_ok.mpr ⟨valid, rfl⟩)
  rw [keyText_toList, List.drop_succ_cons, List.drop_succ_cons, List.drop_succ_cons, List.drop_zero]

theorem encodeCohortKey_decoded {floatText : String → Option String}
    (decoded : decodeCohortKey zone floatText value = .ok parts) :
    encodeCohortKey zone parts = .ok value := by
  simp only [decodeCohortKey, except_ok] at decoded
  obtain ⟨-, -, decoded⟩ := decoded
  cases raw : b64decode (value.toList.drop 3 ++ base64Padding (value.toList.drop 3)) with
  | none => simp [raw] at decoded
  | some bytes =>
    simp only [raw, except_ok] at decoded
    obtain ⟨_, -, _, -, _, encoded, same, returned⟩ := decoded
    cases returned
    rw [encoded, same]

/-- **The cohort key codec is exact.** Every valid key has a text and is decoded from it,
and a text is decoded exactly when it is the text of a key. -/
theorem cohort_key_codec (zone : GuayaquilZone) (floatText : String → Option String) :
    (∀ parts, ValidKey zone parts → ∃ value, encodeCohortKey zone parts = .ok value ∧
      decodeCohortKey zone floatText value = .ok parts) ∧
    (∀ value, (∃ parts, decodeCohortKey zone floatText value = .ok parts) ↔
      ∃ parts, ValidKey zone parts ∧ encodeCohortKey zone parts = .ok value) ∧
    ∀ value parts, decodeCohortKey zone floatText value = .ok parts ↔
      encodeCohortKey zone parts = .ok value := by
  have exact_ : ∀ value parts, decodeCohortKey zone floatText value = .ok parts ↔
      encodeCohortKey zone parts = .ok value := by
    refine fun value parts => ⟨encodeCohortKey_decoded, fun encoded => ?_⟩
    obtain ⟨valid, rfl⟩ := encodeCohortKey_ok.mp encoded
    exact decodeCohortKey_key floatText valid
  refine ⟨fun parts valid => ⟨_, encodeCohortKey_ok.mpr ⟨valid, rfl⟩,
    decodeCohortKey_key floatText valid⟩, fun value => ⟨?_, ?_⟩, exact_⟩
  · rintro ⟨parts, decoded⟩
    have encoded := (exact_ value parts).mp decoded
    exact ⟨parts, (encodeCohortKey_ok.mp encoded).1, encoded⟩
  · rintro ⟨parts, -, encoded⟩
    exact ⟨parts, (exact_ value parts).mpr encoded⟩

end Codec

/-- A key of February 2026 has a text and is decoded from it. -/
theorem sample_key_decoded :
    ∃ value, encodeCohortKey none ⟨"2026-02", "00000000-0000-4000-8000-00000000000a",
        "00000000-0000-4000-8000-00000000000b", "00000000-0000-4000-8000-00000000000c", .minor,
        "00000000-0000-4000-8000-00000000000d"⟩ = .ok value ∧
      decodeCohortKey none (fun _ => none) value = .ok ⟨"2026-02",
        "00000000-0000-4000-8000-00000000000a", "00000000-0000-4000-8000-00000000000b",
        "00000000-0000-4000-8000-00000000000c", .minor,
        "00000000-0000-4000-8000-00000000000d"⟩ :=
  (cohort_key_codec none fun _ => none).1 _ ⟨by decide +kernel, by decide +kernel,
    by decide +kernel, by decide +kernel, (1769922000, 1772341200), by decide +kernel⟩

end Soma.ProductLineSla
