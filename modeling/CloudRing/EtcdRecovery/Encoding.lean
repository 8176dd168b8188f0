import CloudRing.EtcdRecovery.Receipt
import Mathlib.Data.Nat.Digits.Defs

/-!
# Accepted receipts are read back

Every field of a receipt is read back from its member.
-/

namespace CloudRing.EtcdRecovery

open Library (Json Time Utf8.encode Utf8.ofString Pattern.isHexDigit)

section Members

variable {receipt : Receipt}

theorem declared_nodup : (declared.map Field.name).Nodup := by
  decide

theorem mem_declared (field : Field) : field ∈ declared := by
  cases field with
  | text field | number field | flag field => cases field <;> decide
  | tool => decide

theorem members_names (fields : List Field) :
    ((receipt.members fields).map Prod.fst).Sublist (fields.map Field.name) := by
  induction fields with
  | nil => exact List.Sublist.refl _
  | cons field fields ih =>
    rw [Receipt.members, List.filterMap_cons]
    cases receipt.value field with
    | none => exact ih.cons _
    | some value => exact ih.cons_cons _

theorem lookup_members {fields : List Field} (distinct : (fields.map Field.name).Nodup)
    {field : Field} (listed : field ∈ fields) :
    (receipt.members fields).lookup field.name = receipt.value field := by
  induction fields with
  | nil => contradiction
  | cons first fields ih =>
    rw [List.map_cons, List.nodup_cons] at distinct
    have rest : (receipt.members (first :: fields)) =
        ((receipt.value first).map (first.name, ·)).toList ++ receipt.members fields := by
      rw [Receipt.members, List.filterMap_cons]
      cases receipt.value first <;> rfl
    rw [rest]
    by_cases same : field = first
    · subst same
      cases here : receipt.value field with
      | some value => simp
      | none =>
        -- The name does not occur among the other members.
        have absent : (receipt.members fields).lookup field.name = none := by
          rw [List.lookup_eq_none_iff]
          intro member found
          have name := (members_names fields).subset (List.mem_map_of_mem found)
          simpa using fun equal : field.name = member.1 => distinct.1 (equal ▸ name)
        simpa using absent
    · have later := (List.mem_cons.mp listed).resolve_left same
      have other : (field.name == first.name) = false := by
        rw [beq_eq_false_iff_ne]
        intro equal
        exact distinct.1 (equal ▸ List.mem_map_of_mem later)
      cases receipt.value first with
      | none => simpa using ih distinct.2 later
      | some value => simpa [List.lookup_cons, other] using ih distinct.2 later

theorem digitsValue_stripZeros (digits : List Char) :
    Json.digitsValue (Json.stripZeros digits) = Json.digitsValue digits := by
  have dropped : Json.digitsValue (digits.dropWhile (· = '0')) = Json.digitsValue digits := by
    induction digits with
    | nil => rfl
    | cons digit digits ih =>
      by_cases zero : digit = '0'
      · rw [List.dropWhile_cons_of_pos (by simpa using zero), ih, zero]
        rfl
      · rw [List.dropWhile_cons_of_neg (by simpa using zero)]
  rw [← dropped, Json.stripZeros]
  split
  · rename_i none
    rw [none]
    rfl
  · rename_i first rest some
    rw [some]

theorem digitsValue_toDigits (value : Nat) : Json.digitsValue (Nat.toDigits 10 value) = value := by
  have folded : Json.digitsValue (Nat.toDigits 10 value) =
      Nat.ofDigitChars 10 (Nat.toDigits 10 value) 0 := by
    rw [Nat.ofDigitChars_eq_foldl]
    rfl
  rw [folded, Nat.ofDigitChars_ten_toDigits]

theorem isDigit_of_mem_stripZeros {value : Nat} {char : Char}
    (listed : char ∈ Json.stripZeros (Nat.toDigits 10 value)) : char.isDigit = true := by
  rw [Json.stripZeros] at listed
  split at listed
  · rw [List.mem_singleton.mp listed]
    rfl
  · rename_i found
    rw [← found] at listed
    exact Nat.isDigit_of_mem_toDigits (by decide) (by decide)
      ((List.dropWhile_sublist _).subset listed)

theorem readInt_ofInt (value : Int) : readInt (.ofInt value) = value := by
  have digits : Json.digitsValue (Json.stripZeros (Nat.toDigits 10 value.natAbs)) =
      value.natAbs := by
    rw [digitsValue_stripZeros, digitsValue_toDigits]
  have unsigned : (Json.stripZeros (Nat.toDigits 10 value.natAbs)).head? ≠ some '-' := by
    intro first
    exact absurd (isDigit_of_mem_stripZeros (List.mem_of_mem_head? first)) (by decide)
  rw [readInt, Json.Numeral.ofInt, String.toList_ofList, Json.pointed, if_pos rfl, List.append_nil]
  by_cases negative : value < 0
  · rw [decide_eq_true negative, if_pos rfl]
    simp only [List.singleton_append, digits]
    omega
  · rw [decide_eq_false negative, if_neg Bool.false_ne_true, List.nil_append]
    split
    · rename_i rest shape
      rw [shape] at unsigned
      exact absurd rfl unsigned
    · rw [digits]
      omega

theorem accepts_value {field : Field} {value : Json} (here : receipt.value field = some value) :
    field.accepts value = true := by
  cases field with
  | text | number =>
    obtain ⟨-, ⟨⟩⟩ := Option.ite_none_left_eq_some.mp here
    rfl
  | flag field =>
    cases here
    rfl
  | tool =>
    obtain ⟨tool, -, rfl⟩ := Option.map_eq_some_iff.mp here
    rfl

theorem readReceipt_members (receipt : Receipt) :
    readReceipt (receipt.members declared) = some receipt := by
  have taken : (receipt.members declared).all (fun member => declared.any fun field =>
      field.name = member.1 && field.accepts member.2) = true := by
    rw [List.all_eq_true]
    intro member listed
    obtain ⟨field, declaredField, made⟩ := List.mem_filterMap.mp listed
    obtain ⟨value, here, rfl⟩ := Option.map_eq_some_iff.mp made
    rw [List.any_eq_true]
    exact ⟨field, declaredField, by simp [accepts_value here]⟩
  have found : ∀ field, (receipt.members declared).lookup field.name = receipt.value field :=
    fun field => lookup_members declared_nodup (mem_declared field)
  rw [readReceipt, if_pos taken, Option.some.injEq]
  simp only [found]
  refine Receipt.ext (funext fun field => ?_) (funext fun field => ?_) rfl ?_
  · by_cases omitted : receipt.text field = "" ∧ .text field ∉ always
    · simp only [Receipt.value, if_pos omitted]
      exact omitted.1.symm
    · simp only [Receipt.value, if_neg omitted]
  · by_cases omitted : receipt.number field = 0 ∧ .number field ∉ always
    · simp only [Receipt.value, if_pos omitted]
      exact omitted.1.symm
    · simp only [Receipt.value, if_neg omitted, readInt_ofInt]
  · cases tool : receipt.tool <;> simp [Receipt.value, tool, readTool]

end Members

section Size

def width (text : List Char) : Nat := (Utf8.encode text).length

@[simp] theorem width_append (left right : List Char) :
    width (left ++ right) = width left + width right := by
  simp [width]

def Plain (text : String) : Prop :=
  ∀ char ∈ text.toList, char.toNat < 0x80 ∧ Json.goStyle.escape char = [char]

theorem width_plain {text : List Char} (plain : ∀ char ∈ text, char.toNat < 0x80) :
    width text = text.length := by
  have single := List.flatMap_congr fun char listed =>
    Library.Utf8.encodeRune_ascii (plain char listed)
  rw [width, Utf8.encode, single, ← List.map_eq_flatMap, List.length_map]

theorem width_quote {text : String} (plain : Plain text) :
    width (Json.goStyle.quote text) = text.toList.length + 2 := by
  have single := List.flatMap_congr fun char listed => (plain char listed).2
  have quoted : Json.goStyle.quote text = '"' :: (text.toList ++ ['"']) := by
    rw [Json.Style.quote, single, List.flatMap_singleton']
    rfl
  rw [quoted, width_plain]
  · simp
  · intro char listed
    simp only [List.mem_cons, List.mem_append, List.not_mem_nil, or_false] at listed
    obtain rfl | here | rfl := listed
    · decide
    · exact (plain char here).1
    · decide

theorem width_members (members : List (String × Json)) :
    width (Json.goStyle.renderMembers members) ≤ (members.map fun member =>
      width (Json.goStyle.quote member.1) + width (Json.goStyle.render member.2) + 2).sum := by
  induction members with
  | nil => simp [Json.Style.renderMembers, width, Utf8.encode]
  | cons member members ih =>
    obtain ⟨name, value⟩ := member
    have colon : width [':'] = 1 := by decide
    have comma : width [','] = 1 := by decide
    cases members with
    | nil =>
      have shape : Json.goStyle.renderMembers [(name, value)] =
          Json.goStyle.quote name ++ [':'] ++ Json.goStyle.render value := rfl
      simp only [shape, width_append, colon, List.map_singleton, List.sum_singleton]
      omega
    | cons next members =>
      have shape : Json.goStyle.renderMembers ((name, value) :: next :: members) =
          Json.goStyle.quote name ++ [':'] ++ Json.goStyle.render value ++ [','] ++
            Json.goStyle.renderMembers (next :: members) := rfl
      simp only [shape, width_append, colon, comma, List.map_cons, List.sum_cons] at ih ⊢
      omega

def Field.room : Field → Nat
  | .text _ => 73
  | .number _ => 11
  | .flag _ => 5
  | .tool => 130

theorem width_fields {receipt : Receipt} (bounded : ∀ field value,
      receipt.value field = some value → width (Json.goStyle.render value) ≤ field.room)
    (fields : List Field) :
    ((receipt.members fields).map fun member =>
      width (Json.goStyle.quote member.1) + width (Json.goStyle.render member.2) + 2).sum ≤
      (fields.map fun field => width (Json.goStyle.quote field.name) + field.room + 2).sum := by
  induction fields with
  | nil => simp [Receipt.members]
  | cons field fields ih =>
    rw [Receipt.members, List.filterMap_cons, List.map_cons, List.sum_cons]
    cases here : receipt.value field with
    | none => exact Nat.le_trans ih (Nat.le_add_left _ _)
    | some value =>
      have room := bounded field value here
      rw [Option.map_some, List.map_cons, List.sum_cons]
      rw [Receipt.members] at ih
      dsimp only
      omega

theorem marshal_length {receipt : Receipt} (bounded : ∀ field value,
      receipt.value field = some value → width (Json.goStyle.render value) ≤ field.room) :
    0 < receipt.marshal.length ∧ receipt.marshal.length ≤ maximumReceiptBytes := by
  have shape : receipt.marshal.length = width (['{'] ++
      Json.goStyle.renderMembers (receipt.members declared) ++ ['}']) := rfl
  have total : (declared.map fun field =>
      width (Json.goStyle.quote field.name) + field.room + 2).sum ≤ 4094 := by
    decide +kernel
  have brackets : width ['{'] = 1 ∧ width ['}'] = 1 := by decide
  have members := width_members (receipt.members declared)
  have fields := width_fields bounded declared
  rw [shape, width_append, width_append, brackets.1, brackets.2, maximumReceiptBytes]
  omega

end Size

section Accepted

variable {times : TimeFormat} {sha256 : List UInt8 → List UInt8} {receipt : Receipt}

def Short (limit : Nat) (text : String) : Prop := Plain text ∧ text.toList.length ≤ limit

instance (limit : Nat) (text : String) : Decidable (Short limit text) :=
  @instDecidableAnd _ _ (List.decidableBAll _ _) (Nat.decLe _ _)

theorem plain_char {char : Char} (within : 0x2D ≤ char.toNat ∧ char.toNat ≤ 0x7A)
    (allowed : char.toNat ≠ 0x3C ∧ char.toNat ≠ 0x3E ∧ char.toNat ≠ 0x5C) :
    char.toNat < 0x80 ∧ Json.goStyle.escape char = [char] := by
  have other : ∀ code : Char, code.toNat < 0x2D ∨ 0x7A < code.toNat ∨ code.toNat = 0x3C ∨
      code.toNat = 0x3E ∨ code.toNat = 0x5C → char ≠ code := by
    rintro code outside rfl
    omega
  refine ⟨by omega, ?_⟩
  change Json.escapeWith Json.isHTML char = [char]
  have printed : ¬ (decide (char.toNat < 0x20) || Json.isHTML char) = true := by
    simp only [Json.isHTML, Bool.or_eq_true, decide_eq_true_eq, not_or]
    exact ⟨by omega, ⟨⟨⟨other _ (by decide), other _ (by decide)⟩, other _ (by decide)⟩,
      other _ (by decide)⟩, other _ (by decide)⟩
  rw [Json.escapeWith]
  iterate 7 rw [if_neg (other _ (by decide))]
  rw [if_neg printed]

theorem short_of_validSHA256 {value : String} (valid : validSHA256 value = true) :
    Short 64 value := by
  simp only [validSHA256, Bool.and_eq_true, decide_eq_true_eq, List.all_eq_true] at valid
  refine ⟨fun char listed => ?_, valid.1.le⟩
  have digit := valid.2 char listed
  simp only [Pattern.isHexDigit, Bool.or_eq_true, Bool.and_eq_true, decide_eq_true_eq] at digit
  have range : 0x30 ≤ char.toNat ∧ char.toNat ≤ 0x39 ∨ 0x61 ≤ char.toNat ∧ char.toNat ≤ 0x66 :=
    digit
  exact plain_char (by omega) (by omega)

theorem short_of_validImageDigest {value : String} (valid : validImageDigest value = true) :
    Short 71 value := by
  simp only [validImageDigest, Bool.and_eq_true, decide_eq_true_eq] at valid
  obtain ⟨lead, digest⟩ := valid
  obtain ⟨plain, short⟩ := short_of_validSHA256 digest
  rw [String.toList_ofList] at short
  have parts := List.take_append_drop 7 value.toList
  have marks : Short 7 "sha256:" := by decide
  constructor
  · intro char listed
    rw [← parts, List.mem_append, lead] at listed
    obtain front | back := listed
    · exact marks.1 char front
    · exact plain char (by rwa [String.toList_ofList])
  · have front := congrArg List.length lead
    rw [← parts, List.length_append, front]
    change 7 + _ ≤ 71
    omega

/-- What `validReceipt` requires. -/
structure Valid (times : TimeFormat) (receipt : Receipt) : Prop where
  schema : receipt.text .schemaVersion = receiptSchemaVersion
  interval : validInterval times receipt = true
  evidence : validSHA256 (receipt.text .evidenceSHA256) = true
  unhealthy : receipt.flag .memberHealthVerified = false
  loopback : receipt.flag .loopbackOnly = true
  stage : validReceiptStage (receipt.text .stage) = true
  digests : ∀ field ∈ requestDigests ++ [.requestSHA256, .workerExecutableSHA256] ++
    restoredDigests, validOptionalSHA256 (receipt.text field) = true
  sizes : ∀ field ∈ [Number.snapshotBytes, .restoredBytes],
    0 ≤ receipt.number field ∧ receipt.number field ≤ maxArchiveBytes
  mode : receipt.text .sourceMode ∈ ["", "local-file", "s3"]
  image : receipt.text .workerImageDigest = "" ∨
    validImageDigest (receipt.text .workerImageDigest) = true
  tool : validOptionalTool receipt.tool = true
  binding : bindingConsistent receipt = true
  status : validStatusFields receipt = true

theorem validReceipt_iff : validReceipt times receipt = true ↔ Valid times receipt := by
  simp only [validReceipt, Bool.and_eq_true, Bool.or_eq_true, decide_eq_true_eq, List.all_eq_true,
    Bool.not_eq_true', and_assoc]
  constructor
  all_goals
    rintro ⟨h1, h2, h3, h4, h5, h6, h7, h8, h9, h10, h11, h12, h13⟩
    exact ⟨h1, h2, h3, h4, h5, h6, h7, h8, h9, h10, h11, h12, h13⟩

theorem Valid.words (valid : Valid times receipt) :
    receipt.text .status ∈ ["verified", "failed", "cancelled", "timeout"] ∧
      receipt.text .reasonCode ∈ ["offline_restore_verified", "operation_failed",
        "workspace_cleanup_failed", "operation_cancelled", "operation_timed_out"] := by
  have checked := valid.status
  unfold validStatusFields at checked
  dsimp only at checked
  split at checked
  case h_5 => contradiction
  all_goals
    rename_i status
    simp only [Bool.and_eq_true, Bool.or_eq_true, decide_eq_true_eq] at checked
  · simp [status, checked.1.1.1.1.1.1.1.1.1.1.1.1.1]
  · obtain ⟨-, ⟨⟨reason, -⟩, -⟩ | ⟨⟨reason, -⟩, -⟩⟩ := checked <;> simp [status, reason]
  · simp [status, checked.1.1.2]
  · simp [status, checked.1.1.2]

theorem short_of_optional {value : String} (valid : validOptionalSHA256 value = true) :
    Short 71 value := by
  simp only [validOptionalSHA256, Bool.or_eq_true, decide_eq_true_eq] at valid
  obtain rfl | digest := valid
  · decide
  · exact ⟨(short_of_validSHA256 digest).1, (short_of_validSHA256 digest).2.trans (by decide)⟩

theorem short_of_interval (valid : validInterval times receipt = true) :
    Short 71 (receipt.text .startedAt) ∧ Short 71 (receipt.text .completedAt) := by
  have text : ∀ value time, times.parse value = some time → value = times.format time →
      Short 71 value := by
    rintro value time parsed rfl
    have range : Representable time := by
      by_contra outside
      rw [times.parse_format, if_neg outside] at parsed
      cases parsed
    obtain ⟨length, marks⟩ := times.short time range
    have plain : Short 15 "0123456789-:.TZ" := by decide
    exact ⟨fun char listed => plain.1 char (marks char listed), length.trans (by decide)⟩
  unfold validInterval at valid
  split at valid
  · rename_i started completed first second
    simp only [Bool.and_eq_true, decide_eq_true_eq, and_assoc] at valid
    obtain ⟨-, same, also, -⟩ := valid
    exact ⟨text _ started first same, text _ completed second also⟩
  · contradiction

theorem short_of_mem {value : String} {values : List String} (listed : value ∈ values)
    (short : ∀ value ∈ values, Short 71 value) : Short 71 value := short value listed

theorem Valid.short (valid : Valid times receipt) (field : Text) :
    Short 71 (receipt.text field) := by
  cases field
  case schemaVersion =>
    rw [valid.schema]
    decide +kernel
  case status => exact short_of_mem valid.words.1 (by decide +kernel)
  case reasonCode => exact short_of_mem valid.words.2 (by decide +kernel)
  case stage => exact short_of_mem (of_decide_eq_true valid.stage) (by decide +kernel)
  case sourceMode => exact short_of_mem valid.mode (by decide +kernel)
  case workerImageDigest =>
    obtain empty | digest := valid.image
    · rw [empty]
      decide
    · exact short_of_validImageDigest digest
  case startedAt => exact (short_of_interval valid.interval).1
  case completedAt => exact (short_of_interval valid.interval).2
  case evidenceSHA256 =>
    have digest := short_of_validSHA256 valid.evidence
    exact ⟨digest.1, digest.2.trans (by decide)⟩
  all_goals exact short_of_optional (valid.digests _ (by decide))

theorem Valid.small (valid : Valid times receipt) (field : Number) :
    0 ≤ receipt.number field ∧ receipt.number field < 10 ^ 10 := by
  cases field
  case observedDurationMilliseconds =>
    have checked := valid.interval
    unfold validInterval at checked
    split at checked
    · simp only [Bool.and_eq_true, decide_eq_true_eq] at checked
      obtain ⟨⟨-, least⟩, most⟩ := checked
      exact ⟨least, lt_of_le_of_lt most (by decide)⟩
    · contradiction
  case snapshotBytes =>
    exact (valid.sizes .snapshotBytes (by decide)).imp_right (lt_of_le_of_lt · (by decide))
  case restoredBytes =>
    exact (valid.sizes .restoredBytes (by decide)).imp_right (lt_of_le_of_lt · (by decide))

theorem width_ofInt {value : Int} (least : 0 ≤ value) (most : value < 10 ^ 10) :
    width (Json.goStyle.render (.number (.ofInt value))) ≤ 10 := by
  have digits : ∀ char ∈ Json.stripZeros (Nat.toDigits 10 value.natAbs), char.toNat < 0x80 := by
    intro char listed
    have digit := isDigit_of_mem_stripZeros listed
    simp only [Char.isDigit, Bool.and_eq_true, decide_eq_true_eq] at digit
    have range : 0x30 ≤ char.toNat ∧ char.toNat ≤ 0x39 := digit
    omega
  have length : (Json.stripZeros (Nat.toDigits 10 value.natAbs)).length ≤ 10 := by
    have whole := Nat.toDigits_length 10 value.natAbs 10 (by decide) (by omega)
    rw [Json.stripZeros]
    split
    · decide
    · rename_i found
      rw [← found]
      exact (List.dropWhile_sublist _).length_le.trans whole
  have shape : Json.goStyle.render (.number (.ofInt value)) =
      Json.stripZeros (Nat.toDigits 10 value.natAbs) := by
    rw [Json.Style.render, Json.Numeral.ofInt, String.toList_ofList, Json.pointed, if_pos rfl,
      decide_eq_false (Int.not_lt.mpr least), if_neg Bool.false_ne_true, List.append_nil,
      List.nil_append]
  rw [shape, width_plain digits]
  exact length

theorem Valid.bounded (valid : Valid times receipt) (field : Field) (value : Json)
    (here : receipt.value field = some value) :
    width (Json.goStyle.render value) ≤ field.room := by
  cases field with
  | text field =>
    obtain ⟨-, ⟨⟩⟩ := Option.ite_none_left_eq_some.mp here
    obtain ⟨plain, short⟩ := valid.short field
    rw [Json.Style.render, width_quote plain]
    exact Nat.add_le_add_right short 2
  | number field =>
    obtain ⟨-, ⟨⟩⟩ := Option.ite_none_left_eq_some.mp here
    obtain ⟨least, most⟩ := valid.small field
    exact Nat.le_succ_of_le (width_ofInt least most)
  | flag field =>
    cases here
    change width (Json.goStyle.render (.bool (receipt.flag field))) ≤ 5
    cases receipt.flag field <;> decide
  | tool =>
    obtain ⟨tool, present, rfl⟩ := Option.map_eq_some_iff.mp here
    have known := valid.tool
    rw [present, validOptionalTool, Option.all_some, decide_eq_true_eq] at known
    subst known
    decide +kernel

theorem validate_marshal (bounded : 0 < receipt.marshal.length ∧
    receipt.marshal.length ≤ maximumReceiptBytes) :
    StrictJson.validate receipt.marshal = .ok () := by
  have flat : ∀ member ∈ receipt.members declared,
      member.2.DistinctKeys ∧ member.2.levels + 1 ≤ 2 := by
    intro member listed
    obtain ⟨field, -, made⟩ := List.mem_filterMap.mp listed
    obtain ⟨value, here, rfl⟩ := Option.map_eq_some_iff.mp made
    cases field with
    | tool =>
      obtain ⟨tool, -, rfl⟩ := Option.map_eq_some_iff.mp here
      simp [Json.DistinctKeys, Json.DistinctMembers, Json.levels, Json.levelsMembers]
    | text | number | flag =>
      have taken := accepts_value here
      cases value <;>
        first
        | contradiction
        | exact ⟨trivial, Nat.le_succ 1⟩
  refine StrictJson.validate_of_parse (List.ne_nil_of_length_pos bounded.1)
    (bounded.2.trans (by decide)) (Json.parse_bytes Json.goStyle_lawful _) ⟨?_, ?_⟩ ?_
  · exact declared_nodup.sublist (members_names declared)
  · exact (Json.distinctMembers_iff _).mpr fun member listed => (flat member listed).1
  · exact ((Json.levelsMembers_le_iff _ _).mpr fun member listed =>
      (flat member listed).2).trans (by decide)

theorem parse_canonicalReceipt {data : List UInt8}
    (encoded : canonicalReceipt times sha256 receipt = some data) :
    parseCanonicalReceipt times sha256 data = some receipt := by
  rw [canonicalReceipt] at encoded
  split at encoded
  · rename_i passes
    cases encoded
    have valid := passes
    rw [accepted, Bool.and_eq_true, validReceipt_iff] at valid
    obtain ⟨some_, limit⟩ := marshal_length valid.1.bounded
    have size : (decide (receipt.marshal.length = 0) ||
        decide (receipt.marshal.length > maximumReceiptBytes) ||
        !(StrictJson.validate receipt.marshal).isOk) = false := by
      rw [validate_marshal ⟨some_, limit⟩, decide_eq_false some_.ne',
        decide_eq_false (Nat.not_lt.mpr limit)]
      rfl
    have parsed : Json.parse receipt.marshal = some (.object (receipt.members declared)) :=
      Json.parse_bytes Json.goStyle_lawful _
    rw [parseCanonicalReceipt, size, if_neg Bool.false_ne_true, parsed]
    dsimp only
    rw [readReceipt_members, Option.filter_some, if_pos]
    simp [passes]
  · cases encoded

/-- `ParseCanonicalReceipt` reads exactly the texts of `CanonicalReceipt`, each as its receipt. -/
theorem parseCanonicalReceipt_iff {data : List UInt8} :
    parseCanonicalReceipt times sha256 data = some receipt ↔
      canonicalReceipt times sha256 receipt = some data := by
  refine ⟨fun parsed => ?_, parse_canonicalReceipt⟩
  unfold parseCanonicalReceipt at parsed
  split at parsed
  · cases parsed
  · split at parsed <;> simp_all [canonicalReceipt]

end Accepted

end CloudRing.EtcdRecovery
