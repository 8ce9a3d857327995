/-
This file reads a text as tokens of SQL. A quoted name ends at the first double
quote mark that is not doubled, a quoted text at the first single one, and a
backslash is a character like any other. The reader is stricter than that of a
database: it refuses what would end a statement or begin a comment, and a quote or
a placeholder that begins right after another token, where a word would change what
the quote means. So what it reads is read by every database in the same way.

The reader goes through a text once, character after character. What it makes of two
texts that stand one after the other is therefore known from what it makes of each,
as long as something between them ends the last token of the first.
-/

import Sieve.Proofs.Sql.Quote
import Sieve.Proofs.Text.Integers

namespace Sieve.Sql

/-! ### Characters -/

/-- What is quoted. -/
inductive Quotation where
  /-- A name, between double quote marks. -/
  | name
  /-- A text, between single quote marks. -/
  | text
  deriving DecidableEq

/-- The mark that a quotation stands between. -/
def Quotation.mark : Quotation → Char
  | name => '"'
  | text => '\''

/-- What a character does in a text. -/
inductive Role where
  /-- It may stand in a word, and begin one. -/
  | letter
  /-- It may stand in a word or a number. -/
  | digit
  /-- It begins and ends a quotation. -/
  | quote (quotation : Quotation)
  /-- It begins a placeholder. -/
  | dollar
  /-- It stands between tokens. -/
  | blank
  /-- It is a token of its own. -/
  | point
  /-- It is a part of an operator. -/
  | sign
  deriving DecidableEq

/-- What a character does outside quotations; none may stand there without doing something. -/
def role? (character : Char) : Option Role :=
  if Text.isDigit character then some .digit
  else if beginsPlainName (Text.lowerAscii character) then some .letter
  else if character = '"' then some (.quote .name)
  else if character = '\'' then some (.quote .text)
  else if character = '$' then some .dollar
  else if character ∈ [' ', '\t', '\n', '\r'] then some .blank
  else if character ∈ ['(', ')', ',', '.'] then some .point
  else if character ∈ ['+', '-', '*', '/', '<', '>', '=', '~', '!', '@', '#', '%', '^', '&', '|']
    then some .sign
  else none

theorem role?_eq_quote {character : Char} {quotation : Quotation} :
    role? character = some (.quote quotation) ↔ character = quotation.mark := by
  constructor
  · intro found
    unfold role? at found
    split_ifs at found with _ _ isName isText <;>
      simp only [Option.some.injEq, Role.quote.injEq, reduceCtorEq] at found
    · exact found ▸ isName
    · exact found ▸ isText
  · rintro rfl
    cases quotation <;> rfl

theorem role?_of_isDigit {character : Char} (digit : Text.isDigit character = true) :
    role? character = some .digit :=
  if_pos digit

theorem lowerAscii_of_isDigit {character : Char} (digit : Text.isDigit character = true) :
    Text.lowerAscii character = character := by
  refine if_neg fun capital => ?_
  have upper := (Bool.and_eq_true_iff.mp digit).2
  exact absurd (le_trans capital.1 (of_decide_eq_true upper)) (by decide)

theorem lowerAscii_of_beginsPlainName {character : Char}
    (begins : beginsPlainName character = true) : Text.lowerAscii character = character := by
  refine if_neg fun capital => ?_
  rcases Bool.or_eq_true_iff.mp begins with small | lowLine
  · have lower := of_decide_eq_true (Bool.and_eq_true_iff.mp small).1
    exact absurd (le_trans lower capital.2) (by decide)
  · rw [beq_iff_eq.mp lowLine] at capital
    exact absurd capital (by decide)

theorem role?_of_beginsPlainName {character : Char} (begins : beginsPlainName character = true) :
    role? character = some .letter := by
  have noDigit : Text.isDigit character = false :=
    isDigit_of_beginsName (Bool.or_eq_true_iff.mpr (.inr begins))
  rw [role?, noDigit, if_neg Bool.false_ne_true, lowerAscii_of_beginsPlainName begins,
    if_pos begins]

/-! ### Tokens -/

/-- A token of SQL. -/
inductive Token where
  /-- A word of the language, or a name without quotes. -/
  | word (letters : List Char)
  /-- A quoted name or text, with what it stands for. -/
  | quoted (quotation : Quotation) (content : List Char)
  /-- A placeholder with its number. -/
  | placeholder (digits : List Char)
  /-- An operator. -/
  | sign (characters : List Char)
  /-- A bracket, a comma or a point. -/
  | point (character : Char)
  deriving DecidableEq

/-- The name that a token stands for. Without quotes capitals and small letters are the same. -/
def Token.name? : Token → Option (List Char)
  | word letters => some (letters.map Text.lowerAscii)
  | quoted .name content => some content
  | _ => none

/-- What is being read, with what has been read of it. -/
inductive Reading where
  /-- Nothing. -/
  | between
  /-- A word. -/
  | word (letters : List Char)
  /-- A placeholder. -/
  | placeholder (digits : List Char)
  /-- An operator. -/
  | sign (characters : List Char)
  /-- A quotation. -/
  | quoted (quotation : Quotation) (content : List Char)
  /-- A quotation, up to a mark that ends it unless another mark follows. -/
  | closing (quotation : Quotation) (content : List Char)
  deriving DecidableEq

/-- Whether an operator would begin a comment. -/
def beginsComment : List Char → Bool
  | '-' :: '-' :: _ => true
  | '/' :: '*' :: _ => true
  | _ :: rest => beginsComment rest
  | [] => false

namespace Reading

/-- The token that has been read if nothing more belongs to it. -/
def ended? : Reading → Option (List Token)
  | between => some []
  | word letters => some [.word letters]
  | placeholder digits => if digits = [] then none else some [.placeholder digits]
  | sign characters => if beginsComment characters then none else some [.sign characters]
  | quoted _ _ => none
  | closing quotation content => some [.quoted quotation content]

/-- What is read with a character that still belongs to it. -/
def more? (reading : Reading) (character : Char) : Option Reading :=
  match reading, role? character with
  | word letters, some .letter | word letters, some .digit => some (word (letters ++ [character]))
  | placeholder digits, some .digit => some (placeholder (digits ++ [character]))
  | sign characters, some .sign => some (sign (characters ++ [character]))
  | quoted quotation content, found =>
    if found = some (.quote quotation) then some (closing quotation content)
    else some (quoted quotation (content ++ [character]))
  | closing quotation content, found =>
    if found = some (.quote quotation) then some (quoted quotation (content ++ [character]))
    else none
  | _, _ => none

/-- What begins with a character, after what has been read before it. -/
def begun? (reading : Reading) (character : Char) : Option (List Token × Reading) :=
  match role? character, reading with
  | some .letter, _ => some ([], word [character])
  | some .sign, _ => some ([], sign [character])
  | some .blank, _ => some ([], between)
  | some .point, _ => some ([.point character], between)
  | some (.quote quotation), between => some ([], quoted quotation [])
  | some .dollar, between => some ([], placeholder [])
  | _, _ => none

/-- The tokens that end with a character, and what is read after it. -/
def step? (reading : Reading) (character : Char) : Option (List Token × Reading) :=
  match reading.more? character with
  | some more => some ([], more)
  | none => do
    let ended ← reading.ended?
    let (point, next) ← reading.begun? character
    return (ended ++ point, next)

/-- The tokens that end within a text, and what is read at its end. -/
def scan? : Reading → List Char → Option (List Token × Reading)
  | reading, [] => some ([], reading)
  | reading, character :: rest => do
    let (ended, next) ← reading.step? character
    let (later, last) ← scan? next rest
    return (ended ++ later, last)

end Reading

/-- The tokens of a text. -/
def tokens? (text : List Char) : Option (List Token) := do
  let (tokens, last) ← Reading.between.scan? text
  let ended ← last.ended?
  return tokens ++ ended

/-! ### One text after another -/

namespace Reading

variable {reading next last : Reading} {first second : List Char} {tokens later : List Token}

theorem scan?_cons {character : Char} (here : reading.step? character = some (tokens, next))
    (below : next.scan? second = some (later, last)) :
    reading.scan? (character :: second) = some (tokens ++ later, last) := by
  rw [scan?, here, Option.bind_eq_bind, Option.bind_some]
  dsimp only
  rw [below]
  rfl

/-- While a character belongs to what is read, no token ends. -/
theorem scan?_cons_of_more? {character : Char} (here : reading.more? character = some next)
    (below : next.scan? second = some (tokens, last)) :
    reading.scan? (character :: second) = some (tokens, last) := by
  have step : reading.step? character = some ([], next) := by rw [step?, here]
  exact scan?_cons step below

theorem scan?_cons_eq_some {character : Char}
    (done : reading.scan? (character :: first) = some (tokens, last)) :
    ∃ ended next others, reading.step? character = some (ended, next) ∧
      next.scan? first = some (others, last) ∧ tokens = ended ++ others := by
  rw [scan?] at done
  obtain ⟨⟨ended, next⟩, here, done⟩ := Option.bind_eq_some_iff.mp done
  obtain ⟨⟨others, last⟩, below, done⟩ := Option.bind_eq_some_iff.mp done
  obtain ⟨rfl, rfl⟩ := Prod.mk.inj (Option.some.inj done)
  exact ⟨ended, next, others, here, below, rfl⟩

theorem scan?_append (firstRead : reading.scan? first = some (tokens, next))
    (secondRead : next.scan? second = some (later, last)) :
    reading.scan? (first ++ second) = some (tokens ++ later, last) := by
  induction first generalizing reading tokens with
  | nil =>
    obtain ⟨rfl, rfl⟩ := Prod.mk.inj (Option.some.inj firstRead)
    exact secondRead
  | cons character rest inductionHypothesis =>
    obtain ⟨ended, middle, others, here, below, rfl⟩ := scan?_cons_eq_some firstRead
    rw [List.cons_append, List.append_assoc]
    exact scan?_cons here (inductionHypothesis below)

end Reading

/-- Whether a text begins with something that ends the token before it. -/
def isSetApart (text : List Char) : Bool :=
  text.head?.any fun first => role? first = some .blank ∨ role? first = some .point

/-- Whether a text ends where no token is left open. -/
def isSettled (text : List Char) : Bool :=
  (Reading.between.scan? text).any fun read => read.2 = .between

variable {first second : List Char} {tokens later : List Token}

theorem tokens?_eq_some :
    tokens? first = some tokens ↔ ∃ read last ended,
      Reading.between.scan? first = some (read, last) ∧ last.ended? = some ended ∧
        tokens = read ++ ended := by
  constructor
  · intro done
    obtain ⟨⟨read, last⟩, scanned, done⟩ := Option.bind_eq_some_iff.mp done
    obtain ⟨ended, ends, done⟩ := Option.bind_eq_some_iff.mp done
    exact ⟨read, last, ended, scanned, ends, (Option.some.inj done).symm⟩
  · rintro ⟨read, last, ended, scanned, ends, rfl⟩
    rw [tokens?, scanned, Option.bind_eq_bind, Option.bind_some]
    dsimp only
    rw [ends]
    rfl

theorem tokens?_of_scan? {last : Reading} {token : Token}
    (scanned : Reading.between.scan? first = some ([], last))
    (ends : last.ended? = some [token]) : tokens? first = some [token] :=
  tokens?_eq_some.mpr ⟨[], last, [token], scanned, ends, rfl⟩

example : tokens? "d.\"a\"\"b\" <> $12".toList = some [.word ['d'], .point '.',
    .quoted .name ['a', '"', 'b'], .sign ['<', '>'], .placeholder ['1', '2']] := by
  rfl

example : tokens? "d.a = 'it''s".toList = none ∧ tokens? "d.a -- b".toList = none := by
  decide

/-- A blank or a point ends what was read before it, as the end of the text would. -/
theorem exists_step? {character : Char}
    (apart : role? character = some .blank ∨ role? character = some .point) :
    ∃ point, ∀ (reading : Reading) (ended : List Token), reading.ended? = some ended →
      reading.step? character = some (ended ++ point, .between) := by
  have alone : ∀ (reading : Reading) (ended : List Token), reading.ended? = some ended →
      reading.more? character = none := by
    intro reading ended ends
    rcases apart with blank | point
    · cases reading <;> simp_all [Reading.more?, Reading.ended?]
    · cases reading <;> simp_all [Reading.more?, Reading.ended?]
  have begins : ∃ point, ∀ reading : Reading,
      reading.begun? character = some (point, .between) := by
    unfold Reading.begun?
    rcases apart with blank | point
    · exact ⟨[], fun _ => by rw [blank]⟩
    · exact ⟨[.point character], fun _ => by rw [point]⟩
  obtain ⟨point, begins⟩ := begins
  refine ⟨point, fun reading ended ends => ?_⟩
  rw [Reading.step?, alone reading ended ends, begins, ends]
  rfl

theorem tokens?_append (apart : isSettled first = true ∨ isSetApart second = true)
    (firstRead : tokens? first = some tokens) (secondRead : tokens? second = some later) :
    tokens? (first ++ second) = some (tokens ++ later) := by
  obtain ⟨read, last, ended, scanned, ends, rfl⟩ := tokens?_eq_some.mp firstRead
  obtain ⟨others, final, closed, below, finished, rfl⟩ := tokens?_eq_some.mp secondRead
  refine tokens?_eq_some.mpr ⟨read ++ (ended ++ others), final, closed,
    Reading.scan?_append scanned ?_, finished, by simp only [List.append_assoc]⟩
  rcases apart with settled | apart
  · rw [isSettled, scanned, Option.any_some, decide_eq_true_eq] at settled
    obtain rfl := settled
    obtain rfl := Option.some.inj ends
    exact below
  · cases second with
    | nil => exact absurd apart Bool.false_ne_true
    | cons character rest =>
      obtain ⟨point, step⟩ := exists_step? (of_decide_eq_true apart)
      obtain ⟨here, next, more, stepped, after, rfl⟩ := Reading.scan?_cons_eq_some below
      rw [step .between [] rfl] at stepped
      obtain ⟨rfl, rfl⟩ := Prod.mk.inj (Option.some.inj stepped)
      rw [List.nil_append, ← List.append_assoc]
      exact Reading.scan?_cons (step last ended ends) after

theorem isSetApart_append (apart : isSetApart first = true) (second : List Char) :
    isSetApart (first ++ second) = true := by
  cases first with
  | nil => exact absurd apart Bool.false_ne_true
  | cons character rest => exact apart

/-! ### Names, texts and placeholders -/

namespace Reading

/-- Within a quotation every character belongs to it, and two marks are one. -/
theorem scan?_doubled (quotation : Quotation) (text read : List Char) :
    (quoted quotation read).scan? (Text.doubled quotation.mark text ++ [quotation.mark]) =
      some ([], closing quotation (read ++ text)) := by
  have closes : ∀ content : List Char,
      (quoted quotation content).more? quotation.mark = some (closing quotation content) :=
    fun _ => if_pos (role?_eq_quote.mpr rfl)
  induction text generalizing read with
  | nil =>
    rw [List.append_nil]
    exact scan?_cons_of_more? (closes read) rfl
  | cons character rest inductionHypothesis =>
    have below := inductionHypothesis (read ++ [character])
    rw [List.append_assoc] at below
    rw [Text.doubled]
    split
    · rename_i same
      have again : (closing quotation read).more? quotation.mark =
          some (quoted quotation (read ++ [character])) := by
        rw [same]
        exact if_pos (role?_eq_quote.mpr rfl)
      exact scan?_cons_of_more? (closes read) (scan?_cons_of_more? again below)
    · rename_i other
      have inside : (quoted quotation read).more? character =
          some (quoted quotation (read ++ [character])) :=
        if_neg fun found => other (role?_eq_quote.mp found)
      exact scan?_cons_of_more? inside below

theorem scan?_word {letters : List Char}
    (plain : ∀ letter ∈ letters, role? letter = some .letter ∨ role? letter = some .digit)
    (read : List Char) : (word read).scan? letters = some ([], word (read ++ letters)) := by
  induction letters generalizing read with
  | nil => rw [List.append_nil, scan?]
  | cons letter rest inductionHypothesis =>
    obtain ⟨here, others⟩ := List.forall_mem_cons.mp plain
    have more : (word read).more? letter = some (word (read ++ [letter])) := by
      unfold more?
      rcases here with found | found <;> rw [found]
    have below := inductionHypothesis others (read ++ [letter])
    rw [List.append_assoc] at below
    exact scan?_cons_of_more? more below

theorem scan?_placeholder {digits : List Char}
    (plain : ∀ digit ∈ digits, Text.isDigit digit = true) (read : List Char) :
    (placeholder read).scan? digits = some ([], placeholder (read ++ digits)) := by
  induction digits generalizing read with
  | nil => rw [List.append_nil, scan?]
  | cons digit rest inductionHypothesis =>
    obtain ⟨here, others⟩ := List.forall_mem_cons.mp plain
    have more : (placeholder read).more? digit = some (placeholder (read ++ [digit])) := by
      unfold more?
      rw [role?_of_isDigit here]
    have below := inductionHypothesis others (read ++ [digit])
    rw [List.append_assoc] at below
    exact scan?_cons_of_more? more below

end Reading

theorem tokens?_quoted (quotation : Quotation) (text : List Char) :
    tokens? (quotation.mark :: Text.doubled quotation.mark text ++ [quotation.mark]) =
      some [.quoted quotation text] := by
  have opens : Reading.between.step? quotation.mark = some ([], .quoted quotation []) := by
    cases quotation <;> rfl
  exact tokens?_of_scan? (Reading.scan?_cons opens (Reading.scan?_doubled quotation text [])) rfl

/-- A quoted text is one token, whatever it holds. -/
theorem tokens?_quoteText (text : String) :
    tokens? (quoteText text).toList = some [.quoted .text text.toList] := by
  rw [quoteText, String.toList_ofList]
  exact tokens?_quoted .text text.toList

/-- A quoted name is one token, whatever it holds. -/
theorem tokens?_quoteName (name : String) :
    tokens? (quoteName name).toList = some [.quoted .name name.toList] := by
  rw [quoteName, String.toList_ofList]
  exact tokens?_quoted .name name.toList

theorem role?_of_isPlainName {first : Char} {rest : List Char}
    (plain : isPlainName (first :: rest) = true) :
    role? first = some .letter ∧ (∀ letter ∈ rest, role? letter = some .letter ∨
      role? letter = some .digit) ∧ (first :: rest).map Text.lowerAscii = first :: rest := by
  obtain ⟨begins, others⟩ := Bool.and_eq_true_iff.mp plain
  have each := List.all_eq_true.mp others
  refine ⟨role?_of_beginsPlainName begins, fun letter inside => ?_, ?_⟩
  · exact (Bool.or_eq_true_iff.mp (each letter inside)).imp role?_of_beginsPlainName
      role?_of_isDigit
  · have kept : rest.map Text.lowerAscii = rest.map id := by
      refine List.map_congr_left fun letter inside => ?_
      exact (Bool.or_eq_true_iff.mp (each letter inside)).elim lowerAscii_of_beginsPlainName
        lowerAscii_of_isDigit
    rw [List.map_cons, lowerAscii_of_beginsPlainName begins, kept, List.map_id]

/-- A name is one token, with quotes or without. -/
theorem tokens?_writeName (name : String) :
    ∃ token, tokens? (writeName name).toList = some [token] ∧
      token.name? = some name.toList := by
  rw [writeName]
  split
  · rename_i plain
    cases letters : name.toList with
    | nil =>
      rw [letters] at plain
      exact absurd plain Bool.false_ne_true
    | cons first rest =>
      rw [letters] at plain
      obtain ⟨begins, others, small⟩ := role?_of_isPlainName plain
      have opens : Reading.between.step? first = some ([], .word [first]) := by
        unfold Reading.step? Reading.more? Reading.begun?
        rw [begins]
        rfl
      exact ⟨.word (first :: rest), tokens?_of_scan? (Reading.scan?_cons opens
        (Reading.scan?_word others [first])) rfl, congrArg some small⟩
  · exact ⟨_, tokens?_quoteName name, rfl⟩

theorem tokens?_placeholder (number : Nat) :
    tokens? ('$' :: Text.digitsOf number) = some [.placeholder (Text.digitsOf number)] := by
  have opens : Reading.between.step? '$' = some ([], .placeholder []) := rfl
  refine tokens?_of_scan? (Reading.scan?_cons opens (Reading.scan?_placeholder
    (fun digit inside => Text.isDigit_of_mem_digitsOf inside) [])) ?_
  exact if_neg (Text.digitsOf_ne_nil number)

/-! ### Brackets -/

/-- How many brackets are open after a token, if it closes none that is not open. -/
def Token.depthAfter? (depth : Nat) (token : Token) : Option Nat :=
  if token = .point '(' then some (depth + 1)
  else if token = .point ')' then if depth = 0 then none else some (depth - 1)
  else some depth

/-- How many brackets are open after tokens, if none closes one that is not open. -/
def depthAfter? (depth : Nat) (tokens : List Token) : Option Nat :=
  tokens.foldlM Token.depthAfter? depth

theorem depthAfter?_append {depth middle after : Nat}
    (first : depthAfter? depth tokens = some middle)
    (second : depthAfter? middle later = some after) :
    depthAfter? depth (tokens ++ later) = some after := by
  rw [depthAfter?, List.foldlM_append, Option.bind_eq_bind, Option.bind_eq_some_iff]
  exact ⟨middle, first, second⟩

theorem Token.depthAfter?_add {depth after : Nat} {token : Token}
    (known : token.depthAfter? depth = some after) (more : Nat) :
    token.depthAfter? (depth + more) = some (after + more) := by
  unfold depthAfter? at known ⊢
  split_ifs at known ⊢ <;> simp only [Option.some.injEq] at known ⊢ <;> omega

/-- More brackets around tokens stay open. -/
theorem depthAfter?_add {depth after : Nat} (known : depthAfter? depth tokens = some after)
    (more : Nat) : depthAfter? (depth + more) tokens = some (after + more) := by
  induction tokens generalizing depth with
  | nil => exact congrArg (fun depth => some (depth + more)) (Option.some.inj known)
  | cons token rest inductionHypothesis =>
    rw [depthAfter?, List.foldlM_cons, Option.bind_eq_bind, Option.bind_eq_some_iff] at known ⊢
    obtain ⟨middle, here, below⟩ := known
    exact ⟨middle + more, token.depthAfter?_add here more, inductionHypothesis below⟩

end Sieve.Sql
