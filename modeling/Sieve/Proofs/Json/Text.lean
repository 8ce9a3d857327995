/-
This file proves that a written JSON value is read back, if it has no numbers of double
precision. The draft of a value is what its text is by its form: a written character is a
mark, a written integer a numeral, and the brackets of arrays and objects meet. Reading
takes the text for this draft, before whatever may come next, and the draft means the
value, as long as arrays and objects stand in each other no deeper than a text may have
them.
-/

import Sieve.Json.Printer
import Sieve.Json.Reader
import Sieve.Predicate.Json
import Sieve.Proofs.Text.Integers

namespace Sieve.Json

/-! ### Characters -/

/-- The characters that have a short escape in a written text. -/
def shortlyEscaped : List Char :=
  ['"', '\\', '\x08', '\x0c', '\n', '\r', '\t']

/-- The mark that a character is written as. -/
def markOf (character : Char) : Mark :=
  if character ∉ shortlyEscaped ∧ character.toNat < 0x20 then .codeUnit character.toNat
  else .character character

theorem escaped_of_not_mem {character : Char} (long : character ∉ shortlyEscaped) :
    escaped character =
      if character.toNat < 0x20 then '\\' :: 'u' :: Text.paddedHex 4 character.toNat
      else [character] := by
  simp only [shortlyEscaped, List.mem_cons, List.not_mem_nil, or_false, not_or] at long
  simp only [escaped, long, if_false]

/-- The four digits of a control write its number. -/
theorem exists_paddedHex {number : Nat} (small : number < 0x20) :
    ∃ first second third fourth, Text.paddedHex 4 number = [first, second, third, fourth] ∧
      codeUnit? first second third fourth = some number := by
  refine ⟨_, _, _, _, rfl, ?_⟩
  interval_cases number <;> rfl

/-- A written character is read as its mark. -/
theorem readMarks?_escaped (character : Char) (rest : List Char) :
    readMarks? (escaped character ++ rest) = consMark (markOf character) (readMarks? rest) := by
  by_cases short : character ∈ shortlyEscaped
  · rw [markOf, if_neg fun both => both.1 short]
    simp only [shortlyEscaped, List.mem_cons, List.not_mem_nil, or_false] at short
    rcases short with rfl | rfl | rfl | rfl | rfl | rfl | rfl <;> rfl
  · rw [escaped_of_not_mem short, markOf]
    by_cases control : character.toNat < 0x20
    · obtain ⟨first, second, third, fourth, digits, unit⟩ := exists_paddedHex control
      rw [if_pos control, if_pos ⟨short, control⟩, digits]
      simp only [List.cons_append, List.nil_append, readMarks?, unit]
    · have plain : character ≠ '"' ∧ character ≠ '\\' := by
        simp only [shortlyEscaped, List.mem_cons, not_or] at short
        exact ⟨short.1, short.2.1⟩
      rw [if_neg control, if_neg fun both => control both.2, List.singleton_append,
        readMarks?.eq_def]
      split <;> simp_all

/-- The characters of a written text are read up to the closing quote. -/
theorem readMarks?_flatMap_escaped (characters rest : List Char) :
    readMarks? (characters.flatMap escaped ++ '"' :: rest) =
      some (characters.map markOf, rest) := by
  induction characters with
  | nil => rfl
  | cons character characters inductionHypothesis =>
    rw [List.flatMap_cons, List.append_assoc, readMarks?_escaped, inductionHypothesis]
    rfl

theorem charactersOf?_codeUnit {number : Nat} (small : number < 0x20) (rest : List Mark) :
    charactersOf? (.codeUnit number :: rest) =
      (charactersOf? rest).map (Char.ofNat number :: ·) := by
  have whole : isHighHalf number = false ∧ isLowHalf number = false := by
    simp only [isHighHalf, isLowHalf, Bool.and_eq_false_imp, decide_eq_true_eq,
      decide_eq_false_iff_not]
    omega
  cases rest with
  | nil => simp [charactersOf?, whole]
  | cons mark rest =>
    cases mark with
    | character value => simp [charactersOf?, whole]
    | codeUnit low => simp [charactersOf?, whole]

/-- The marks of a text write the text. -/
theorem textOf?_map_markOf (text : String) : textOf? (text.toList.map markOf) = some text := by
  have characters (list : List Char) : charactersOf? (list.map markOf) = some list := by
    induction list with
    | nil => rfl
    | cons character list inductionHypothesis =>
      rw [List.map_cons, markOf]
      split
      case isTrue control =>
        rw [charactersOf?_codeUnit control.2, inductionHypothesis, Option.map_some,
          Char.ofNat_toNat]
      case isFalse => rw [charactersOf?, inductionHypothesis, Option.map_some]
  rw [textOf?, characters, Option.map_some, String.ofList_toList]

/-! ### Integers -/

/-- What may come after a written value: nothing that goes on with a number. -/
def EndsValue (rest : List Char) : Prop :=
  ∀ character ∈ rest.head?, Text.isDigit character = false ∧ character ≠ '.' ∧
    character ≠ 'e' ∧ character ≠ 'E'

theorem endsValue_nil : EndsValue [] :=
  fun _ inside => absurd inside (by simp)

/-- What stands between values ends the one before. -/
theorem endsValue_cons {character : Char} (between : character ∈ [',', ']', '\x7d'])
    (rest : List Char) : EndsValue (character :: rest) := by
  intro first inside
  obtain rfl := Option.some.inj inside
  simp only [List.mem_cons, List.not_mem_nil, or_false] at between
  rcases between with rfl | rfl | rfl <;> decide

/-- The numeral that an integer is written as. -/
def numeralOf (value : Int) : Numeral :=
  ⟨decide (value < 0), Text.digitsOf value.natAbs, [], none⟩

section

variable {rest : List Char} (ends : EndsValue rest)

include ends

theorem readFraction?_of_ends : readFraction? rest = some ([], rest) := by
  cases rest with
  | nil => rfl
  | cons first others =>
    obtain ⟨_, notPoint, _⟩ := ends first rfl
    unfold readFraction?
    split
    · rename_i same
      exact absurd (List.cons.inj same).1 notPoint
    · rfl

theorem readExponent?_of_ends : readExponent? rest = some (none, rest) := by
  cases rest with
  | nil => rfl
  | cons first others =>
    obtain ⟨_, _, notSmall, notCapital⟩ := ends first rfl
    rw [readExponent?, if_neg (by simp [notSmall, notCapital])]

/-- A written integer is read as its numeral. -/
theorem readNumeral?_writeInt (value : Int) :
    readNumeral? (Text.writeInt value ++ rest) = some (numeralOf value, rest) := by
  have digits : ∀ digit ∈ Text.digitsOf value.natAbs, Text.isDigit digit = true :=
    fun _ inside => Text.isDigit_of_mem_digitsOf inside
  obtain ⟨taken, dropped⟩ :=
    Text.isDigit_span_append digits fun first inside => (ends first inside).1
  have present : (Text.digitsOf value.natAbs).isEmpty = false :=
    List.isEmpty_eq_false_iff.mpr (Text.digitsOf_ne_nil _)
  have single : ((Text.digitsOf value.natAbs).head? == some '0' &&
      (Text.digitsOf value.natAbs).length != 1) = false := by
    rcases Nat.eq_zero_or_pos value.natAbs with zero | positive
    · rw [zero]
      rfl
    · rw [beq_eq_false_iff_ne.mpr (Text.head?_digitsOf_ne positive), Bool.false_and]
  by_cases negative : value < 0
  · rw [Text.writeInt, if_pos negative, List.cons_append, numeralOf, decide_eq_true negative]
    unfold readNumeral?
    simp only [taken, dropped, present, single, readFraction?_of_ends ends,
      readExponent?_of_ends ends, Bool.or_self, Bool.false_eq_true, if_false,
      Option.bind_eq_bind, Option.bind_some]
  · obtain ⟨first, others, shown⟩ := List.exists_cons_of_ne_nil (Text.digitsOf_ne_nil value.natAbs)
    have digit : Text.isDigit first = true :=
      Text.isDigit_of_mem_digitsOf (shown ▸ List.mem_cons_self)
    have notMinus : first ≠ '-' := by
      rintro rfl
      exact absurd digit (by decide)
    rw [Text.writeInt, if_neg negative, numeralOf, decide_eq_false negative]
    rw [shown, List.cons_append] at taken dropped ⊢
    rw [shown] at present single
    unfold readNumeral?
    -- The first digit is no sign, so the match comes to its last branch.
    simp only [List.cons.injEq, notMinus, false_and, imp_false, not_false_eq_true, implies_true,
      taken, dropped, present, single, readFraction?_of_ends ends,
      readExponent?_of_ends ends, Bool.or_self, Bool.false_eq_true, if_false,
      Option.bind_eq_bind, Option.bind_some]

end

theorem gather_cons (digits : Nat) (character : Char) (rest : List Char) :
    gather digits (character :: rest) =
      match append? digits character with
      | some longer => gather longer rest
      | none => (digits, character :: rest) :=
  (rfl)

/-- Digits that write a word are gathered into the word. -/
theorem gather_of_le {digits : List Char} {start : Nat}
    (word : Text.digitsValue start digits ≤ greatestWord) :
    gather start digits = (Text.digitsValue start digits, []) := by
  induction digits generalizing start with
  | nil => rfl
  | cons digit digits inductionHypothesis =>
    rw [Text.digitsValue_cons] at word ⊢
    have fits : append? start digit = some (start * 10 + Text.digitValue digit) :=
      if_pos ((Text.le_digitsValue _ digits).trans word)
    rw [gather_cons, fits]
    exact inductionHypothesis word

/-- The numeral of an integer of one word means the integer. -/
theorem value?_numeralOf {value : Int} (word : -2 ^ 63 ≤ value ∧ value < 2 ^ 64) :
    (numeralOf value).value? = some (.integer value) := by
  have small : Text.digitsValue 0 (Text.digitsOf value.natAbs) ≤ greatestWord := by
    rw [Text.digitsValue_digitsOf]
    show value.natAbs ≤ 2 ^ 64 - 1
    omega
  have gathered := gather_of_le small
  rw [Text.digitsValue_digitsOf] at gathered
  simp only [Numeral.value?, numeralOf, gathered, Numeral.isWhole, List.isEmpty_nil,
    Option.isNone_none, Bool.and_self, if_true]
  refine congrArg some ?_
  unfold Numeral.ofWord
  by_cases negative : value < 0
  · have inWord : ¬(value.natAbs = 0 ∨ Nat.pow 2 63 < value.natAbs) := by
      show ¬(value.natAbs = 0 ∨ 2 ^ 63 < value.natAbs)
      omega
    rw [decide_eq_true negative, if_neg (by simp), if_neg inWord]
    exact congrArg integer (by omega)
  · rw [decide_eq_false negative, if_pos (by simp)]
    exact congrArg integer (by omega)

/-! ### Drafts of values -/

mutual

/-- Whether no number of double precision is in a value, and every integer fits a word of 64 bits,
with or without sign. -/
def IsPlain : Json → Prop
  | integer value => -2 ^ 63 ≤ value ∧ value < 2 ^ 64
  | float _ => False
  | list items => ArePlain items
  | record members => HasPlainMembers members
  | _ => True

/-- Whether all items are plain. -/
def ArePlain : List Json → Prop
  | [] => True
  | item :: rest => IsPlain item ∧ ArePlain rest

/-- Whether the values of all members are plain. -/
def HasPlainMembers : List (String × Json) → Prop
  | [] => True
  | (_, value) :: rest => IsPlain value ∧ HasPlainMembers rest

end

mutual

/-- The draft that a plain value is written as. -/
def draft : Json → Draft
  | null => .null
  | bool value => .bool value
  | integer value => .number (numeralOf value)
  | float _ => .null
  | text value => .text (value.toList.map markOf)
  | list items => .list (itemDrafts items)
  | record members => .record (memberDrafts members)

/-- The drafts that items are written as. -/
def itemDrafts : List Json → List Draft
  | [] => []
  | item :: rest => draft item :: itemDrafts rest

/-- The drafts that members are written as. -/
def memberDrafts : List (String × Json) → List (List Mark × Draft)
  | [] => []
  | (key, value) :: rest => (key.toList.map markOf, draft value) :: memberDrafts rest

end

mutual

/-- The draft of a plain value means the value, where it may stand as deep as it does. -/
theorem value?_draft {value : Json} {depth : Nat} (plain : value.IsPlain)
    (shallow : value.height ≤ depth) : value.draft.value? depth = some value := by
  cases value with
  | null => rfl
  | bool value => rfl
  | integer value => exact value?_numeralOf plain
  | float value => exact absurd plain id
  | text value => exact congrArg (Option.map Json.text) (textOf?_map_markOf value)
  | list items =>
    obtain ⟨depth, rfl⟩ :=
      Nat.exists_eq_succ_of_ne_zero (Nat.lt_of_lt_of_le (Nat.succ_pos _) shallow).ne'
    have bound : heightOfItems items ≤ depth := Nat.le_of_succ_le_succ shallow
    exact congrArg (Option.map Json.list) (itemValues?_itemDrafts plain bound)
  | record members =>
    obtain ⟨depth, rfl⟩ :=
      Nat.exists_eq_succ_of_ne_zero (Nat.lt_of_lt_of_le (Nat.succ_pos _) shallow).ne'
    have bound : heightOfMembers members ≤ depth := Nat.le_of_succ_le_succ shallow
    exact congrArg (Option.map Json.record) (memberValues?_memberDrafts plain bound)

theorem itemValues?_itemDrafts {items : List Json} {depth : Nat} (plain : ArePlain items)
    (shallow : heightOfItems items ≤ depth) :
    Draft.itemValues? depth (itemDrafts items) = some items := by
  cases items with
  | nil => rfl
  | cons item rest =>
    obtain ⟨here, below⟩ := plain
    rw [heightOfItems, max_le_iff] at shallow
    rw [itemDrafts, Draft.itemValues?, value?_draft here shallow.1,
      itemValues?_itemDrafts below shallow.2]
    rfl

theorem memberValues?_memberDrafts {members : List (String × Json)} {depth : Nat}
    (plain : HasPlainMembers members) (shallow : heightOfMembers members ≤ depth) :
    Draft.memberValues? depth (memberDrafts members) = some members := by
  match members with
  | [] => rfl
  | (key, value) :: rest =>
    obtain ⟨here, below⟩ := plain
    rw [heightOfMembers, max_le_iff] at shallow
    rw [memberDrafts, Draft.memberValues?, textOf?_map_markOf, value?_draft here shallow.1,
      memberValues?_memberDrafts below shallow.2]
    rfl

end

/-! ### Written values -/

theorem skipSpace_cons {first : Char} (visible : isSpace first = false) (rest : List Char) :
    skipSpace (first :: rest) = first :: rest :=
  List.dropWhile_cons_of_neg (by simp [visible])

/-- Whether a character may begin an integer. -/
def StartsInteger (character : Char) : Prop :=
  Text.isDigit character = true ∨ character = '-'

theorem StartsInteger.ne {character other : Char} (starts : StartsInteger character)
    (notDigit : Text.isDigit other = false) (notMinus : other ≠ '-') : character ≠ other := by
  rintro rfl
  rcases starts with digit | minus
  · exact absurd (digit.symm.trans notDigit) (by decide)
  · exact notMinus minus

theorem StartsInteger.visible {character : Char} (starts : StartsInteger character) :
    isSpace character = false := by
  simp only [isSpace, Bool.or_eq_false_iff, beq_eq_false_iff_ne]
  exact ⟨⟨⟨starts.ne rfl (by decide), starts.ne rfl (by decide)⟩, starts.ne rfl (by decide)⟩,
    starts.ne rfl (by decide)⟩

theorem exists_writeInt (value : Int) :
    ∃ first rest, Text.writeInt value = first :: rest ∧ StartsInteger first := by
  unfold Text.writeInt
  split
  · exact ⟨'-', _, rfl, .inr rfl⟩
  · obtain ⟨first, rest, shown⟩ :=
      List.exists_cons_of_ne_nil (Text.digitsOf_ne_nil value.natAbs)
    exact ⟨first, rest, shown, .inl (Text.isDigit_of_mem_digitsOf (shown ▸ List.mem_cons_self))⟩

/-- A written value begins with a character that is no blank and no closing bracket. -/
theorem exists_write {value : Json} (plain : value.IsPlain) :
    ∃ first rest, value.write = first :: rest ∧ isSpace first = false ∧ first ≠ ']' := by
  cases value with
  | null => exact ⟨_, _, rfl, rfl, by decide⟩
  | bool value => cases value <;> exact ⟨_, _, rfl, rfl, by decide⟩
  | integer value =>
    obtain ⟨first, rest, shown, starts⟩ := exists_writeInt value
    exact ⟨first, rest, shown, starts.visible, starts.ne rfl (by decide)⟩
  | float value => exact absurd plain id
  | text value => exact ⟨_, _, rfl, rfl, by decide⟩
  | list items => exact ⟨_, _, rfl, rfl, by decide⟩
  | record members => exact ⟨_, _, rfl, rfl, by decide⟩

/-- A written integer is read as its numeral. -/
theorem readDraft?_writeInt (value : Int) {rest : List Char} (ends : EndsValue rest) (fuel : Nat) :
    readDraft? (fuel + 1) (Text.writeInt value ++ rest) =
      some (.number (numeralOf value), rest) := by
  obtain ⟨first, others, shown, starts⟩ := exists_writeInt value
  have numeral := readNumeral?_writeInt ends value
  rw [shown, List.cons_append] at numeral ⊢
  rw [readDraft?, skipSpace_cons starts.visible]
  split
  case h_1 same => exact absurd same (List.cons_ne_nil _ _)
  case h_8 => rw [numeral, Option.map_some]
  all_goals
    rename_i same
    exact absurd (List.cons.inj same).1 (starts.ne rfl (by decide))

theorem writeText_append (text : String) (rest : List Char) :
    writeText text ++ rest = '"' :: (text.toList.flatMap escaped ++ '"' :: rest) := by
  simp only [writeText, List.cons_append, List.append_assoc, List.nil_append]

/-- A written text is read as its marks. -/
theorem readDraft?_writeText (text : String) (rest : List Char) (fuel : Nat) :
    readDraft? (fuel + 1) (writeText text ++ rest) =
      some (.text (text.toList.map markOf), rest) := by
  rw [writeText_append, readDraft?, skipSpace_cons rfl]
  simp only [readMarks?_flatMap_escaped, Option.map_some]

/-- A written key is read, with the colon after it, as its marks. -/
theorem readKey?_writeText (key : String) (rest : List Char) :
    readKey? (writeText key ++ ':' :: rest) = some (key.toList.map markOf, rest) := by
  have colon : skipSpace (':' :: rest) = ':' :: rest := skipSpace_cons rfl rest
  rw [writeText_append, readKey?, skipSpace_cons rfl]
  simp only [readMarks?_flatMap_escaped, Option.bind_eq_bind, Option.bind_some, colon]

theorem readContinuation?_more (closing : Char) (rest : List Char) :
    readContinuation? closing (',' :: rest) = some (.more rest) := by
  rw [readContinuation?, skipSpace_cons rfl]
  rfl

theorem readContinuation?_done {closing : Char} (visible : isSpace closing = false)
    (other : closing ≠ ',') (rest : List Char) :
    readContinuation? closing (closing :: rest) = some (.done rest) := by
  rw [readContinuation?, skipSpace_cons visible]
  simp only [if_neg other, if_true]

/-- The text of some items begins with that of the first one. -/
theorem exists_writeItems {item : Json} (plain : item.IsPlain) (items : List Json) :
    ∃ first rest, writeItems (item :: items) = first :: rest ∧ isSpace first = false ∧
      first ≠ ']' := by
  obtain ⟨first, rest, shown, begins⟩ := exists_write plain
  cases items with
  | nil => exact ⟨first, rest, shown, begins⟩
  | cons next items =>
    refine ⟨first, rest ++ ',' :: writeItems (next :: items), ?_, begins⟩
    show item.write ++ ',' :: writeItems (next :: items) = _
    rw [shown, List.cons_append]

/-- The text of some members begins with a quote. -/
theorem exists_writeMembers (member : String × Json) (members : List (String × Json)) :
    ∃ rest, writeMembers (member :: members) = '"' :: rest := by
  obtain ⟨key, value⟩ := member
  cases members <;> exact ⟨_, rfl⟩

mutual

/-- A written value is read as its draft, before whatever ends it. -/
theorem readDraft?_write {value : Json} {rest : List Char} {fuel : Nat} (plain : value.IsPlain)
    (ends : EndsValue rest) (enough : 2 * value.write.length ≤ fuel) :
    readDraft? fuel (value.write ++ rest) = some (value.draft, rest) := by
  have positive : 0 < value.write.length := by
    obtain ⟨first, others, shown, _⟩ := exists_write plain
    rw [shown]
    exact Nat.succ_pos _
  obtain ⟨fuel, rfl⟩ := Nat.exists_eq_succ_of_ne_zero (show fuel ≠ 0 by omega)
  cases value with
  | null => rfl
  | bool value => cases value <;> rfl
  | integer value => exact readDraft?_writeInt value ends fuel
  | float value => exact absurd plain id
  | text value => exact readDraft?_writeText value rest fuel
  | list items =>
    have shown : (list items).write ++ rest = '[' :: (writeItems items ++ ']' :: rest) := by
      simp only [write, List.cons_append, List.append_assoc, List.nil_append]
    cases items with
    | nil => rfl
    | cons item items =>
      have bound : 2 * (writeItems (item :: items)).length + 1 ≤ fuel := by
        simp only [write, List.length_cons, List.length_append, List.length_nil] at enough
        omega
      have below := readItems?_writeItems plain (List.cons_ne_nil item items) rest bound
      obtain ⟨first, others, begun, visible, notClosing⟩ := exists_writeItems plain.1 items
      rw [begun, List.cons_append] at below
      rw [shown, begun, List.cons_append, readDraft?, skipSpace_cons rfl]
      simp only [skipSpace_cons visible]
      split
      case h_1 same => exact absurd (List.cons.inj same).1 notClosing
      case h_2 => rw [below, Option.map_some, draft]
  | record members =>
    have shown : (record members).write ++ rest =
        '\x7b' :: (writeMembers members ++ '\x7d' :: rest) := by
      simp only [write, List.cons_append, List.append_assoc, List.nil_append]
    cases members with
    | nil => rfl
    | cons member members =>
      have bound : 2 * (writeMembers (member :: members)).length + 1 ≤ fuel := by
        simp only [write, List.length_cons, List.length_append, List.length_nil] at enough
        omega
      have below := readMembers?_writeMembers plain (List.cons_ne_nil member members) rest bound
      obtain ⟨others, begun⟩ := exists_writeMembers member members
      rw [begun, List.cons_append] at below
      rw [shown, begun, List.cons_append, readDraft?, skipSpace_cons rfl]
      simp only [skipSpace_cons (show isSpace '"' = false from rfl)]
      split
      case h_1 same => exact absurd (List.cons.inj same).1 (by decide)
      case h_2 => rw [below, Option.map_some, draft]

theorem readItems?_writeItems {items : List Json} {fuel : Nat} (plain : ArePlain items)
    (nonempty : items ≠ []) (rest : List Char)
    (enough : 2 * (writeItems items).length + 1 ≤ fuel) :
    readItems? fuel (writeItems items ++ ']' :: rest) = some (itemDrafts items, rest) := by
  obtain ⟨fuel, rfl⟩ := Nat.exists_eq_succ_of_ne_zero (show fuel ≠ 0 by omega)
  match items with
  | [] => exact absurd rfl nonempty
  | [item] =>
    have ends : EndsValue (']' :: rest) := endsValue_cons (by decide) rest
    have here := readDraft?_write plain.1 ends (Nat.le_of_succ_le_succ enough)
    rw [writeItems, readItems?, here]
    simp only [readContinuation?_done (show isSpace ']' = false from rfl) (by decide)]
    rfl
  | item :: next :: items =>
    have shown : writeItems (item :: next :: items) =
        item.write ++ ',' :: writeItems (next :: items) := rfl
    rw [shown, List.length_append, List.length_cons] at enough
    have ends : EndsValue (',' :: (writeItems (next :: items) ++ ']' :: rest)) :=
      endsValue_cons (by decide) _
    have enoughHere : 2 * item.write.length ≤ fuel := by omega
    have enoughBelow : 2 * (writeItems (next :: items)).length + 1 ≤ fuel := by omega
    have here := readDraft?_write plain.1 ends enoughHere
    have below := readItems?_writeItems plain.2 (List.cons_ne_nil next items) rest enoughBelow
    rw [shown, List.append_assoc, List.cons_append, readItems?, here]
    simp only [readContinuation?_more, below, Option.map_some]
    rfl

theorem readMembers?_writeMembers {members : List (String × Json)} {fuel : Nat}
    (plain : HasPlainMembers members) (nonempty : members ≠ []) (rest : List Char)
    (enough : 2 * (writeMembers members).length + 1 ≤ fuel) :
    readMembers? fuel (writeMembers members ++ '\x7d' :: rest) =
      some (memberDrafts members, rest) := by
  obtain ⟨fuel, rfl⟩ := Nat.exists_eq_succ_of_ne_zero (show fuel ≠ 0 by omega)
  match members with
  | [] => exact absurd rfl nonempty
  | [(key, value)] =>
    have shown : writeMembers [(key, value)] = writeText key ++ ':' :: value.write := rfl
    rw [shown, List.length_append, List.length_cons] at enough
    have ends : EndsValue ('\x7d' :: rest) := endsValue_cons (by decide) rest
    have enoughHere : 2 * value.write.length ≤ fuel := by omega
    have here := readDraft?_write plain.1 ends enoughHere
    rw [shown, List.append_assoc, List.cons_append, readMembers?, readKey?_writeText]
    simp only [here, readContinuation?_done (show isSpace '\x7d' = false from rfl)
      (show '\x7d' ≠ ',' by decide)]
    rfl
  | (key, value) :: next :: members =>
    have shown : writeMembers ((key, value) :: next :: members) =
        writeText key ++ ':' :: value.write ++ ',' :: writeMembers (next :: members) := rfl
    rw [shown, List.length_append, List.length_append, List.length_cons, List.length_cons] at enough
    have ends : EndsValue (',' :: (writeMembers (next :: members) ++ '\x7d' :: rest)) :=
      endsValue_cons (by decide) _
    have enoughHere : 2 * value.write.length ≤ fuel := by omega
    have enoughBelow : 2 * (writeMembers (next :: members)).length + 1 ≤ fuel := by omega
    have here := readDraft?_write plain.1 ends enoughHere
    have below := readMembers?_writeMembers plain.2 (List.cons_ne_nil next members) rest enoughBelow
    rw [shown, List.append_assoc, List.append_assoc, List.cons_append, List.cons_append,
      readMembers?, readKey?_writeText]
    simp only [here, readContinuation?_more, below, Option.map_some]
    rfl

end

/-- A plain value that is written is read back, if arrays and objects stand in each other no
deeper than in a text. -/
theorem ofText?_write {value : Json} (plain : value.IsPlain)
    (shallow : value.height ≤ greatestDepth) : ofText? value.write = some value := by
  have enough : 2 * value.write.length ≤ 2 * value.write.length + 2 := Nat.le_add_right _ 2
  have read := readDraft?_write plain endsValue_nil enough
  rw [List.append_nil] at read
  rw [ofText?, Draft.ofText?, read]
  exact value?_draft plain shallow

theorem ofString?_toText {value : Json} (plain : value.IsPlain)
    (shallow : value.height ≤ greatestDepth) : ofString? value.toText = some value := by
  rw [ofString?, toText, String.toList_ofList, ofText?_write plain shallow]

end Sieve.Json
