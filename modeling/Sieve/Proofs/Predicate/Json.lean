/-
This file proves that the JSON form of a predicate is read back as the predicate. Every
field is written under its key and every choice by its name, so each reader finds what
its writer put there, at any depth. What is left are the literals: those that are points
in time are texts of their own, and numbers of double precision are left out, since some
of them have no JSON form. The text of the JSON form is read back as well, as long as it
does not nest deeper than a text may.
-/

import Sieve.Predicate.Json
import Sieve.Proofs.Calendar.Printed
import Sieve.Proofs.Json.Text
import Sieve.Proofs.Uuid

namespace Sieve

open Calendar

/-! ### Literals -/

namespace Literal

/-- A literal that is read back: no number of double precision, and a point in time only if it can
be written. -/
def Representable : Literal → Prop
  | float _ => False
  | naive clock => clock.Representable
  | utc instant => instant.utc.Representable
  | offset time => time.Representable
  | _ => True

/-- The type of a literal. -/
def tag : Literal → Tag
  | null => .null
  | bool _ => .bool
  | int _ => .int
  | float _ => .float
  | text _ => .text
  | uuid _ => .uuid
  | naive _ => .naive
  | utc _ => .utc
  | offset _ => .offset

theorem choiceOf?_tagName (literal : Literal) :
    Json.choiceOf? tagNames literal.tagName = some literal.tag := by
  cases literal <;> rfl

/-- The content of a literal is read as the literal. -/
theorem ofContent?_content {literal : Literal} (representable : literal.Representable) :
    ofContent? literal.tag literal.content = some literal := by
  cases literal with
  | null => rfl
  | bool value => rfl
  | int value =>
    have bounds : Int64.minValue.toInt ≤ value.toInt ∧ value.toInt ≤ Int64.maxValue.toInt :=
      ⟨value.minValue_le_toInt, value.toInt_le⟩
    simp only [tag, content, ofContent?, Json.asInt64?, if_pos bounds, Int64.ofInt_toInt,
      Option.map_some]
  | float value => exact absurd representable id
  | text value => rfl
  | uuid value =>
    simp only [tag, content, ofContent?, Json.asText?, Option.bind_some, Uuid.toText,
      String.toList_ofList, Uuid.ofText?_write, Option.map_some]
  | naive clock =>
    simp only [tag, content, ofContent?, Json.asText?, Option.bind_some, String.toList_ofList,
      WallClock.ofLiteral?_write representable, Option.map_some]
  | utc instant =>
    simp only [tag, content, ofContent?, Json.asText?, Option.bind_some, String.toList_ofList,
      Instant.ofLiteral?_write representable, Option.map_some]
  | offset time =>
    simp only [tag, content, ofContent?, Json.asText?, Option.bind_some, String.toList_ofList,
      ZonedTime.ofLiteral?_write representable, Option.map_some]

/-- The JSON form of a literal is read as the literal. -/
theorem ofJson?_toJson {literal : Literal} (representable : literal.Representable)
    (manner : Json.Manner) : ofJson? manner literal.toJson = some literal := by
  have tagged : Json.choice? manner tagNames (.text literal.tagName) = some literal.tag :=
    literal.choiceOf?_tagName
  by_cases absent : literal.isNull = true
  · cases literal with
    | null => cases manner <;> rfl
    | _ => exact absurd absent (by simp [isNull])
  · rw [toJson, if_neg absent]
    show ((Json.choice? manner tagNames (.text literal.tagName)).bind fun tag =>
      ofContent? tag literal.content) = some literal
    rw [tagged, Option.bind_some, ofContent?_content representable]

theorem mapM_ofJson?_toJson {literals : List Literal}
    (representable : ∀ literal ∈ literals, literal.Representable) (manner : Json.Manner) :
    (literals.map toJson).mapM (ofJson? manner) = some literals := by
  induction literals with
  | nil => rfl
  | cons literal rest inductionHypothesis =>
    obtain ⟨here, below⟩ := List.forall_mem_cons.mp representable
    rw [List.map_cons, List.mapM_cons, ofJson?_toJson here, inductionHypothesis below]
    rfl

theorem isPlain_toJson {literal : Literal} (representable : literal.Representable) :
    literal.toJson.IsPlain := by
  cases literal with
  | int value =>
    have low : -2 ^ 63 ≤ value.toInt := value.le_toInt
    have high : value.toInt < 2 ^ 63 := value.toInt_lt
    have word : -2 ^ 63 ≤ value.toInt ∧ value.toInt < 2 ^ 64 := ⟨low, by omega⟩
    exact ⟨trivial, word, trivial⟩
  | float value => exact absurd representable id
  | null => exact ⟨trivial, trivial⟩
  | _ => exact ⟨trivial, trivial, trivial⟩

theorem arePlain_toJson {literals : List Literal}
    (representable : ∀ literal ∈ literals, literal.Representable) :
    Json.ArePlain (literals.map toJson) := by
  induction literals with
  | nil => exact trivial
  | cons literal rest inductionHypothesis =>
    obtain ⟨here, below⟩ := List.forall_mem_cons.mp representable
    exact ⟨isPlain_toJson here, inductionHypothesis below⟩

end Literal

/-! ### Operands -/

namespace Operand

/-- The literals of an operand. -/
def literals : Operand → List Literal
  | field _ => []
  | literal value => [value]

/-- The JSON form of an operand is read as the operand. -/
theorem ofJson?_toJson {operand : Operand}
    (representable : ∀ literal ∈ operand.literals, literal.Representable) :
    ofJson? operand.toJson = some operand := by
  cases operand with
  | field path => rfl
  | literal value =>
    have here : value.Representable := representable value List.mem_cons_self
    show (Literal.ofJson? .lenient value.toJson).map literal = some (literal value)
    rw [Literal.ofJson?_toJson here]
    rfl

theorem isPlain_toJson {operand : Operand}
    (representable : ∀ literal ∈ operand.literals, literal.Representable) :
    operand.toJson.IsPlain := by
  cases operand with
  | field path => exact ⟨trivial, trivial⟩
  | literal value =>
    have here : value.Representable := representable value List.mem_cons_self
    exact ⟨Literal.isPlain_toJson here, trivial⟩

end Operand

/-! ### Predicates -/

namespace Predicate

mutual

/-- The literals of a predicate, from left to right. -/
def literals : Predicate → List Literal
  | all parts => literalsOfAll parts
  | any parts => literalsOfAll parts
  | not part => literals part
  | compare left _ right => left.literals ++ right.literals
  | member _ values _ => values
  | between _ low high => [low, high]
  | isNull _ _ => []
  | text _ _ _ _ => []

/-- The literals of some predicates. -/
def literalsOfAll : List Predicate → List Literal
  | [] => []
  | part :: rest => literals part ++ literalsOfAll rest

end

theorem choice?_sign (comparison : Comparison) :
    Json.choice? .lenient Comparison.signs (.text comparison.sign) = some comparison := by
  cases comparison <;> rfl

theorem choice?_name (textMatch : TextMatch) :
    Json.choice? .lenient TextMatch.names (.text textMatch.name) = some textMatch := by
  cases textMatch <;> rfl

theorem height_toJson_pos (predicate : Predicate) : 0 < predicate.toJson.height := by
  cases predicate <;> exact Nat.succ_pos _

mutual

/-- The JSON form of a predicate is read as the predicate, within its height or more. -/
theorem ofJsonWithin?_toJson {predicate : Predicate} {height : Nat}
    (representable : ∀ literal ∈ predicate.literals, literal.Representable)
    (enough : predicate.toJson.height ≤ height) (manner : Json.Manner) :
    ofJsonWithin? height manner predicate.toJson = some predicate := by
  obtain ⟨height, rfl⟩ :=
    Nat.exists_eq_succ_of_ne_zero (predicate.height_toJson_pos.trans_le enough).ne'
  cases predicate with
  | all parts =>
    have bound : Json.heightOfItems (toJsonAll parts) ≤ height := by
      simp only [toJson, Json.height, Json.heightOfMembers] at enough
      omega
    have below := mapM_ofJsonWithin?_toJson representable bound
    show ((toJsonAll parts).mapM (ofJsonWithin? height .lenient)).bind
      (fun parts => some (all parts)) = some (all parts)
    rw [below]
    rfl
  | any parts =>
    have bound : Json.heightOfItems (toJsonAll parts) ≤ height := by
      simp only [toJson, Json.height, Json.heightOfMembers] at enough
      omega
    have below := mapM_ofJsonWithin?_toJson representable bound
    show ((toJsonAll parts).mapM (ofJsonWithin? height .lenient)).bind
      (fun parts => some (any parts)) = some (any parts)
    rw [below]
    rfl
  | not part =>
    have inPart : ∀ literal ∈ part.literals, literal.Representable := representable
    have bound : part.toJson.height ≤ height := by
      simp only [toJson, Json.height, Json.heightOfMembers] at enough
      omega
    have below := ofJsonWithin?_toJson inPart bound .lenient
    show (ofJsonWithin? height .lenient part.toJson).bind (fun part => some (not part)) =
      some (not part)
    rw [below]
    rfl
  | compare left comparison right =>
    obtain ⟨leftRead, rightRead⟩ := List.forall_mem_append.mp representable
    show ((Operand.ofJson? left.toJson).bind fun left =>
      (Json.choice? .lenient Comparison.signs (.text comparison.sign)).bind fun comparison =>
        (Operand.ofJson? right.toJson).bind fun right => some (compare left comparison right)) =
      some (compare left comparison right)
    rw [Operand.ofJson?_toJson leftRead, choice?_sign, Operand.ofJson?_toJson rightRead]
    rfl
  | member path values negated =>
    have inValues : ∀ literal ∈ values, literal.Representable := representable
    show (((values.map Literal.toJson).mapM (Literal.ofJson? .lenient)).bind fun values =>
      some (member path values negated)) = some (member path values negated)
    rw [Literal.mapM_ofJson?_toJson inValues]
    rfl
  | between path low high =>
    obtain ⟨lowRead, highRead⟩ := List.forall_mem_cons.mp representable
    show ((Literal.ofJson? .lenient low.toJson).bind fun low =>
      (Literal.ofJson? .lenient high.toJson).bind fun high => some (between path low high)) =
      some (between path low high)
    rw [Literal.ofJson?_toJson lowRead,
      Literal.ofJson?_toJson (List.forall_mem_singleton.mp highRead)]
    rfl
  | isNull path negated => rfl
  | text path textMatch value ignoresCase =>
    show ((Json.choice? .lenient TextMatch.names (.text textMatch.name)).bind fun textMatch =>
      some (text path textMatch value ignoresCase)) = some (text path textMatch value ignoresCase)
    rw [choice?_name]
    rfl

theorem mapM_ofJsonWithin?_toJson {parts : List Predicate} {height : Nat}
    (representable : ∀ literal ∈ literalsOfAll parts, literal.Representable)
    (enough : Json.heightOfItems (toJsonAll parts) ≤ height) :
    (toJsonAll parts).mapM (ofJsonWithin? height .lenient) = some parts := by
  cases parts with
  | nil => rfl
  | cons part rest =>
    obtain ⟨here, below⟩ := List.forall_mem_append.mp representable
    rw [toJsonAll, Json.heightOfItems, max_le_iff] at enough
    rw [toJsonAll, List.mapM_cons, ofJsonWithin?_toJson here enough.1,
      mapM_ofJsonWithin?_toJson below enough.2]
    rfl

end

mutual

/-- The JSON form of a predicate has no numbers but the integers of its literals. -/
theorem isPlain_toJson {predicate : Predicate}
    (representable : ∀ literal ∈ predicate.literals, literal.Representable) :
    predicate.toJson.IsPlain := by
  cases predicate with
  | all parts => exact ⟨trivial, arePlain_toJsonAll representable, trivial⟩
  | any parts => exact ⟨trivial, arePlain_toJsonAll representable, trivial⟩
  | not part =>
    have inPart : ∀ literal ∈ part.literals, literal.Representable := representable
    exact ⟨trivial, isPlain_toJson inPart, trivial⟩
  | compare left comparison right =>
    obtain ⟨inLeft, inRight⟩ := List.forall_mem_append.mp representable
    exact ⟨trivial, Operand.isPlain_toJson inLeft, trivial, Operand.isPlain_toJson inRight,
      trivial⟩
  | member path values negated =>
    exact ⟨trivial, trivial, Literal.arePlain_toJson representable, trivial, trivial⟩
  | between path low high =>
    obtain ⟨inLow, inHigh⟩ := List.forall_mem_cons.mp representable
    exact ⟨trivial, trivial, Literal.isPlain_toJson inLow,
      Literal.isPlain_toJson (List.forall_mem_singleton.mp inHigh), trivial⟩
  | isNull path negated => exact ⟨trivial, trivial, trivial, trivial⟩
  | text path textMatch value ignoresCase =>
    exact ⟨trivial, trivial, trivial, trivial, trivial, trivial⟩

theorem arePlain_toJsonAll {parts : List Predicate}
    (representable : ∀ literal ∈ literalsOfAll parts, literal.Representable) :
    Json.ArePlain (toJsonAll parts) := by
  cases parts with
  | nil => exact trivial
  | cons part rest =>
    obtain ⟨here, below⟩ := List.forall_mem_append.mp representable
    exact ⟨isPlain_toJson here, arePlain_toJsonAll below⟩

end

/-- A predicate without numbers of double precision, whose points in time can be written, is what
its JSON form is read as, at any depth, and what the text of that form is read as if it nests no
deeper than a text may. In particular each point in time is read back from its own text, a zone
and a leap second included. -/
theorem toJson_read_back :
    (∀ predicate : Predicate, (∀ literal ∈ predicate.literals, literal.Representable) →
      ofJson? predicate.toJson = some predicate ∧
        (predicate.toJson.height ≤ Json.greatestDepth →
          (Json.ofString? predicate.toJson.toText).bind ofJson? = some predicate)) ∧
    (∀ clock : WallClock, clock.Representable →
      WallClock.ofLiteral? clock.write = some clock) ∧
    (∀ instant : Instant, instant.utc.Representable →
      (ZonedTime.ofLiteral? instant.write).map ZonedTime.instant = some instant) ∧
    ∀ time : ZonedTime, time.Representable → ZonedTime.ofLiteral? time.write = some time := by
  refine ⟨fun predicate representable => ?_, fun clock => WallClock.ofLiteral?_write,
    fun instant representable => ?_, fun time => ZonedTime.ofLiteral?_write⟩
  · have read : ofJson? predicate.toJson = some predicate :=
      ofJsonWithin?_toJson representable le_rfl .strict
    refine ⟨read, fun shallow => ?_⟩
    rw [Json.ofString?_toText (isPlain_toJson representable) shallow, Option.bind_some, read]
  · rw [Instant.ofLiteral?_write representable, Option.map_some]

/-- Leap seconds of the last year that can be written and of a zone behind UTC, and the first
second of all with a fraction, are read back with the predicate around them. -/
theorem toJson_read_back_of_leap_seconds :
    ∃ predicate : Predicate,
      predicate.literals =
        [.naive ⟨8210266876799, 1999999999⟩, .utc ⟨⟨-8334601228800, 1⟩⟩,
          .offset ⟨⟨⟨1483228799, 1000000000⟩⟩, -34200⟩, .int (-7), .text "\n\"", .null] ∧
      ofJson? predicate.toJson = some predicate ∧
      (Json.ofString? predicate.toJson.toText).bind ofJson? = some predicate ∧
      (WallClock.mk 8210266876799 1999999999).write = "+262142-12-31T23:59:60.999999999".toList ∧
      WallClock.ofLiteral? "+262142-12-31T23:59:60.999999999".toList =
        some ⟨8210266876799, 1999999999⟩ ∧
      (ZonedTime.mk ⟨⟨1483228799, 1000000000⟩⟩ (-34200)).write =
        "2016-12-31T14:29:60-09:30".toList ∧
      ZonedTime.ofLiteral? "2016-12-31T14:29:60-09:30".toList =
        some ⟨⟨⟨1483228799, 1000000000⟩⟩, -34200⟩ := by
  obtain ⟨predicates, clocks, _, times⟩ := toJson_read_back
  have last : (WallClock.mk 8210266876799 1999999999).Representable :=
    ⟨by decide +kernel, by decide +kernel, by decide +kernel⟩
  have first : (WallClock.mk (-8334601228800) 1).Representable :=
    ⟨by decide +kernel, by decide +kernel, by decide +kernel⟩
  have leap : (WallClock.mk 1483228799 1000000000).Representable :=
    ⟨by decide +kernel, by decide +kernel, by decide +kernel⟩
  have behind : (ZonedTime.mk ⟨⟨1483228799, 1000000000⟩⟩ (-34200)).Representable :=
    ⟨leap, by decide +kernel, by decide +kernel, by decide +kernel⟩
  have lastText : (WallClock.mk 8210266876799 1999999999).write =
      "+262142-12-31T23:59:60.999999999".toList := by
    decide +kernel
  have behindText : (ZonedTime.mk ⟨⟨1483228799, 1000000000⟩⟩ (-34200)).write =
      "2016-12-31T14:29:60-09:30".toList := by
    decide +kernel
  obtain ⟨read, readText⟩ := predicates
    (.not (.any
      [.compare (.literal (.naive ⟨8210266876799, 1999999999⟩)) .ge (.field "Made"),
        .between "Seen" (.utc ⟨⟨-8334601228800, 1⟩⟩)
          (.offset ⟨⟨⟨1483228799, 1000000000⟩⟩, -34200⟩),
        .all [.member "Count" [.int (-7), .text "\n\"", .null] true, .isNull "Open" false]]))
    (by
      intro literal inside
      simp only [literals, literalsOfAll, Operand.literals, List.cons_append, List.nil_append,
        List.append_nil, List.mem_cons, List.not_mem_nil, or_false] at inside
      rcases inside with rfl | rfl | rfl | rfl | rfl | rfl
      · exact last
      · exact first
      · exact behind
      · exact trivial
      · exact trivial
      · exact trivial)
  exact ⟨_, rfl, read, readText (by decide +kernel), lastText, lastText ▸ clocks _ last,
    behindText, behindText ▸ times _ behind⟩

end Predicate

end Sieve
