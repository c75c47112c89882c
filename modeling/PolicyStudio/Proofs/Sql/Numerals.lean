import PolicyStudio.Policy.Condition
import PolicyStudio.Proofs.Sql.Constants
import PolicyStudio.Proofs.Sql.Paths

/-!
# Reading constants back

A constant of a statement is a word for nothing or for one of the two truth values, a literal
between quotes, or a number: its digits, perhaps with a sign, a point and an exponent.
`readConstant` is a reader of constants, which knows nothing of how they are written.

It reads every literal and every number back.  A binary number that is infinite or no number at
all is written as a word, which is no constant but a name.
-/

namespace PolicyStudio
namespace Sql

/-! ## Numeric constants -/

/-- A numeric constant in parts; the parts are given by their digits. -/
structure NumericConstant where
  negative : Bool := false
  whole : List Char
  fraction : Option (List Char) := none
  /-- Whether the exponent is negative, and its digits. -/
  exponent : Option (Bool × List Char) := none
deriving DecidableEq

namespace NumericConstant

/-- The parts consist of digits, and nothing but what is behind the point may be empty. -/
structure IsProper (number : NumericConstant) : Prop where
  starts : number.whole ≠ []
  whole : ∀ c ∈ number.whole, c.isDigit = true
  fraction : ∀ digits ∈ number.fraction, ∀ c ∈ digits, c.isDigit = true
  exponent : ∀ part ∈ number.exponent, part.2 ≠ [] ∧ ∀ c ∈ part.2, c.isDigit = true

/-- What is behind the whole part, with its point. -/
def writeFraction : Option (List Char) → List Char
  | none => []
  | some digits => '.' :: digits

/-- The exponent with its letter and its sign. -/
def writeExponent : Option (Bool × List Char) → List Char
  | none => []
  | some (negative, digits) => 'e' :: (if negative then '-' else '+') :: digits

/-- The constant without a sign. -/
def magnitude (number : NumericConstant) : List Char :=
  number.whole ++ (writeFraction number.fraction ++ writeExponent number.exponent)

/-- The constant as it stands in a statement. -/
def write (number : NumericConstant) : List Char :=
  if number.negative then '-' :: number.magnitude else number.magnitude

/-- The integer that the constant stands for, if it has neither a point nor an exponent. -/
def integer? (number : NumericConstant) : Option Int :=
  match number.fraction, number.exponent with
  | none, none =>
    let size := Nat.ofDigitChars 10 number.whole 0
    some (if number.negative then -(size : Int) else size)
  | _, _ => none

end NumericConstant

/-! ## The reader -/

/-- Read what is behind a whole part, and what follows it. -/
def readFraction : List Char → Option (List Char) × List Char
  | '.' :: rest => (some (rest.takeWhile Char.isDigit), rest.dropWhile Char.isDigit)
  | rest => (none, rest)

/-- Read an exponent up to the end, if there is one. -/
def readExponent : List Char → Option (Option (Bool × List Char))
  | [] => some none
  | 'e' :: sign :: digits =>
    if (sign = '-' ∨ sign = '+') ∧ digits ≠ [] ∧ digits.all Char.isDigit then
      some (some (sign = '-', digits))
    else none
  | _ => none

/-- Read a constant behind its sign. -/
def readMagnitude (negative : Bool) (cs : List Char) : Option NumericConstant := do
  let whole := cs.takeWhile Char.isDigit
  let (fraction, rest) := readFraction (cs.dropWhile Char.isDigit)
  let exponent ← readExponent rest
  if whole = [] then none else some { negative, whole, fraction, exponent }

/-- Read a whole text as a numeric constant. -/
def readNumber : List Char → Option NumericConstant
  | '-' :: rest => readMagnitude true rest
  | cs => readMagnitude false cs

/-- A constant of a statement. -/
inductive Constant where
  | null
  | truth (value : Bool)
  | text (content : String)
  | number (parts : NumericConstant)
deriving DecidableEq

/-- Read a whole text as a constant. -/
def readConstant (text : String) : Option Constant :=
  match text.toList with
  | '\'' :: rest => match readContent '\'' rest with
    | some (content, []) => some (.text (String.ofList content))
    | _ => none
  | cs =>
    if text = "NULL" then some .null
    else if text = "TRUE" then some (.truth true)
    else if text = "FALSE" then some (.truth false)
    else (readNumber cs).map .number

/-! ## Reading numeric constants -/

/-- Digits are cut off before anything else. -/
theorem cut_digits {digits rest : List Char} (all : ∀ c ∈ digits, c.isDigit = true)
    (ends : ∀ c ∈ rest.head?, c.isDigit = false) :
    (digits ++ rest).takeWhile Char.isDigit = digits ∧
      (digits ++ rest).dropWhile Char.isDigit = rest := by
  rw [List.takeWhile_append_of_pos all, List.dropWhile_append_of_pos all]
  cases rest with
  | nil => exact ⟨List.append_nil digits, rfl⟩
  | cons first later =>
    have stops := ends first rfl
    rw [List.takeWhile_cons_of_neg (by rw [stops]; decide), List.append_nil,
      List.dropWhile_cons_of_neg (by rw [stops]; decide)]
    exact ⟨rfl, rfl⟩

namespace NumericConstant

variable {number : NumericConstant}

theorem head?_writeExponent (exponent : Option (Bool × List Char)) :
    ∀ c ∈ (writeExponent exponent).head?, c = 'e' := by
  cases exponent with
  | none => nofun
  | some part =>
    intro c headed
    cases headed
    rfl

/-- No digit follows the digits of the whole part. -/
theorem head?_behind_whole (fraction : Option (List Char)) (exponent : Option (Bool × List Char)) :
    ∀ c ∈ (writeFraction fraction ++ writeExponent exponent).head?, c.isDigit = false := by
  cases fraction with
  | none =>
    intro c headed
    rw [head?_writeExponent exponent c headed]
    rfl
  | some digits =>
    intro c headed
    cases headed
    rfl

theorem readExponent_writeExponent {exponent : Option (Bool × List Char)}
    (proper : ∀ part ∈ exponent, part.2 ≠ [] ∧ ∀ c ∈ part.2, c.isDigit = true) :
    readExponent (writeExponent exponent) = some exponent := by
  cases exponent with
  | none => rfl
  | some part =>
    rcases part with ⟨negative, digits⟩
    rcases proper _ rfl with ⟨shows, all⟩
    cases negative
    · exact if_pos ⟨.inr rfl, shows, List.all_eq_true.mpr all⟩
    · exact if_pos ⟨.inl rfl, shows, List.all_eq_true.mpr all⟩

theorem readFraction_writeFraction {fraction : Option (List Char)}
    (proper : ∀ digits ∈ fraction, ∀ c ∈ digits, c.isDigit = true)
    (exponent : Option (Bool × List Char)) :
    readFraction (writeFraction fraction ++ writeExponent exponent) =
      (fraction, writeExponent exponent) := by
  cases fraction with
  | none => cases exponent <;> rfl
  | some digits =>
    have ends : ∀ c ∈ (writeExponent exponent).head?, c.isDigit = false := by
      intro c headed
      rw [head?_writeExponent exponent c headed]
      rfl
    rcases cut_digits (proper digits rfl) ends with ⟨taken, dropped⟩
    show (some ((digits ++ writeExponent exponent).takeWhile Char.isDigit),
      (digits ++ writeExponent exponent).dropWhile Char.isDigit) = _
    rw [taken, dropped]

theorem readMagnitude_magnitude (proper : number.IsProper) (negative : Bool) :
    readMagnitude negative number.magnitude = some { number with negative } := by
  rcases cut_digits proper.whole (head?_behind_whole number.fraction number.exponent) with
    ⟨taken, dropped⟩
  unfold readMagnitude magnitude
  rw [taken, dropped, readFraction_writeFraction proper.fraction]
  dsimp only
  rw [readExponent_writeExponent proper.exponent]
  exact if_neg proper.starts

/-- A constant begins with a digit, behind a minus if it is negative. -/
theorem IsProper.magnitude_eq_cons (proper : number.IsProper) :
    ∃ first rest, number.magnitude = first :: rest ∧ first.isDigit = true := by
  cases digits : number.whole with
  | nil => exact absurd digits proper.starts
  | cons first rest =>
    refine ⟨first, rest ++ (writeFraction number.fraction ++ writeExponent number.exponent), ?_,
      proper.whole first (digits ▸ List.mem_cons_self)⟩
    rw [magnitude, digits, List.cons_append]

/-- What was written is read back, part by part. -/
theorem readNumber_write (proper : number.IsProper) : readNumber number.write = some number := by
  unfold write
  cases negative : number.negative with
  | true =>
    show readMagnitude true number.magnitude = _
    rw [readMagnitude_magnitude proper, ← negative]
  | false =>
    rcases proper.magnitude_eq_cons with ⟨first, rest, starts, digit⟩
    have unsigned : first ≠ '-' := by
      rintro rfl
      cases digit
    have read : readNumber number.magnitude = readMagnitude false number.magnitude := by
      rw [starts]
      unfold readNumber
      split
      · next same =>
        cases same
        exact absurd rfl unsigned
      · rfl
    show readNumber number.magnitude = _
    rw [read, readMagnitude_magnitude proper, ← negative]

end NumericConstant

/-! ## Integers -/

/-- The text of an integer is read back as this integer. -/
theorem exists_of_integerText {n : Int} {text : String}
    (written : Policy.integerText n = .ok text) :
    ∃ number : NumericConstant, number.IsProper ∧ number.write = text.toList ∧
      number.integer? = some n := by
  have shown : text = if n < 0 then "-" ++ n.natAbs.repr else n.natAbs.repr := by
    unfold Policy.integerText at written
    by_cases short : n.natAbs < 10 ^ Policy.integerDigitLimit
    · rw [if_pos short] at written
      exact (Except.ok.inj written).symm
    · rw [if_neg short] at written
      cases written
  have size : Nat.ofDigitChars 10 n.natAbs.repr.toList 0 = n.natAbs := by
    rw [Nat.toList_repr]
    exact Nat.ofDigitChars_toDigits (by decide) (by decide)
  have starts : n.natAbs.repr.toList ≠ [] := by
    rw [Nat.toList_repr]
    exact Nat.toDigits_ne_nil
  refine ⟨{ negative := n < 0, whole := n.natAbs.repr.toList },
    ⟨starts, fun c => isDigit_of_mem_repr, nofun, nofun⟩, ?_, ?_⟩
  · subst shown
    by_cases below : n < 0 <;>
      simp [NumericConstant.write, NumericConstant.magnitude, NumericConstant.writeFraction,
        NumericConstant.writeExponent, below]
  · unfold NumericConstant.integer?
    dsimp only
    rw [size]
    by_cases below : n < 0
    · rw [if_pos (decide_eq_true below)]
      exact congrArg some (by omega)
    · rw [if_neg (by simpa using below)]
      exact congrArg some (by omega)

/-! ## Binary numbers -/

/-- The characters are a numeric constant without a sign. -/
def IsUnsigned (cs : List Char) : Prop :=
  ∃ number : NumericConstant, number.IsProper ∧ number.magnitude = cs

/-- Digits, a point, and perhaps more digits. -/
theorem isUnsigned_pointed {whole fraction : List Char} (starts : whole ≠ [])
    (wholeDigits : ∀ c ∈ whole, c.isDigit = true)
    (fractionDigits : ∀ c ∈ fraction, c.isDigit = true) :
    IsUnsigned (whole ++ '.' :: fraction) := by
  refine ⟨{ whole, fraction := some fraction }, ⟨starts, wholeDigits, ?_, nofun⟩, ?_⟩
  · rintro _ ⟨⟩
    exact fractionDigits
  · rw [NumericConstant.magnitude, NumericConstant.writeFraction, NumericConstant.writeExponent,
      List.append_nil]

/-- An exponent is a sign with digits behind it. -/
theorem exists_exponentText (n : Int) : ∃ part : Bool × List Char,
    NumericConstant.writeExponent (some part) = 'e' :: Decimal.exponentText n ∧
      part.2 ≠ [] ∧ ∀ c ∈ part.2, c.isDigit = true := by
  refine ⟨(n < 0, if n.natAbs.repr.toList.length < 2 then '0' :: n.natAbs.repr.toList
    else n.natAbs.repr.toList), ?_, ?_, ?_⟩
  · by_cases below : n < 0 <;>
      simp [NumericConstant.writeExponent, Decimal.exponentText, below]
  · split_ifs with short
    · exact List.cons_ne_nil _ _
    · intro empty
      have lengths := congrArg List.length empty
      exact short (lengths ▸ (by decide : 0 < 2))
  · intro c member
    split_ifs at member
    · rcases List.mem_cons.mp member with zero | member
      · exact zero ▸ by decide
      · exact isDigit_of_mem_repr member
    · exact isDigit_of_mem_repr member

section Layout

variable {d : Decimal.Digits}

theorem isUnsigned_positional (digits : ∀ c ∈ d.digits, c.isDigit = true) :
    IsUnsigned (Decimal.positional d) := by
  have zero : ∀ c ∈ ['0'], c.isDigit = true := List.forall_mem_singleton.mpr (by decide)
  have zeros : ∀ {k : Nat}, ∀ c ∈ List.replicate k '0', c.isDigit = true :=
    fun c member => zero c (List.mem_singleton.mpr (List.eq_of_mem_replicate member))
  unfold Decimal.positional
  dsimp only
  split_ifs with small within
  · show IsUnsigned (['0'] ++ '.' :: (List.replicate (-d.point).toNat '0' ++ d.digits))
    refine isUnsigned_pointed (List.cons_ne_nil _ _) zero fun c member => ?_
    exact (List.mem_append.mp member).elim (zeros c) (digits c)
  · refine isUnsigned_pointed ?_ (fun c member => ?_) zero
    · intro empty
      have lengths := congrArg List.length empty
      rw [List.length_append, List.length_replicate, List.length_nil] at lengths
      omega
    · exact (List.mem_append.mp member).elim (digits c) (zeros c)
  · refine isUnsigned_pointed ?_ (fun c member => digits c (List.mem_of_mem_take member))
      fun c member => digits c (List.mem_of_mem_drop member)
    intro empty
    have lengths := congrArg List.length empty
    rw [List.length_take, List.length_nil] at lengths
    omega

theorem isUnsigned_scientific (digits : ∀ c ∈ d.digits, c.isDigit = true) :
    IsUnsigned (Decimal.scientific d) := by
  rcases exists_exponentText (d.point - 1) with ⟨part, written, shows, all⟩
  have proper : ∀ other ∈ some part, other.2 ≠ [] ∧ ∀ c ∈ other.2, c.isDigit = true := by
    rintro _ ⟨⟩
    exact ⟨shows, all⟩
  unfold Decimal.scientific
  cases shown : d.digits with
  | nil =>
    exact ⟨{ whole := ['0'] }, ⟨List.cons_ne_nil _ _, List.forall_mem_singleton.mpr (by decide),
      nofun, nofun⟩, rfl⟩
  | cons first rest =>
    rw [shown] at digits
    have leading : ∀ c ∈ [first], c.isDigit = true :=
      List.forall_mem_singleton.mpr (digits first List.mem_cons_self)
    cases rest with
    | nil =>
      refine ⟨{ whole := [first], exponent := some part },
        ⟨List.cons_ne_nil _ _, leading, nofun, proper⟩, ?_⟩
      rw [NumericConstant.magnitude, written]
      rfl
    | cons second rest =>
      refine ⟨{ whole := [first], fraction := some (second :: rest), exponent := some part },
        ⟨List.cons_ne_nil _ _, leading, ?_, proper⟩, ?_⟩
      · rintro _ ⟨⟩ c member
        exact digits c (List.mem_cons_of_mem _ member)
      · rw [NumericConstant.magnitude, written]
        rfl

theorem isUnsigned_write (digits : ∀ c ∈ d.digits, c.isDigit = true) : IsUnsigned d.write := by
  unfold Decimal.Digits.write
  split_ifs
  · exact isUnsigned_positional digits
  · exact isUnsigned_scientific digits

end Layout

/-- A finite number is written as a constant with its sign. -/
theorem exists_of_finite (negative : Bool) (mantissa : Nat) (exponent : Int) (narrow : Bool) :
    ∃ number : NumericConstant, number.IsProper ∧ number.negative = negative ∧
      number.write = (Decimal.Binary.finite negative mantissa exponent narrow).write.toList := by
  have unsigned : IsUnsigned (if mantissa = 0 then ['0', '.', '0']
      else (Decimal.shortest mantissa exponent narrow).write) := by
    split_ifs
    · have zero : ∀ c ∈ ['0'], c.isDigit = true := List.forall_mem_singleton.mpr (by decide)
      exact isUnsigned_pointed (List.cons_ne_nil _ _) zero zero
    · exact isUnsigned_write fun c member => isDigit_of_mem_shortest member
  rcases unsigned with ⟨number, proper, written⟩
  refine ⟨{ number with negative }, ⟨proper.starts, proper.whole, proper.fraction, proper.exponent⟩,
    rfl, ?_⟩
  rw [Decimal.Binary.write, String.toList_ofList, ← written]
  rfl

/-! ## Constants -/

/-- What stands between single quotes is read back. -/
theorem readConstant_enclosed {text : String} {content : List Char}
    (written : text.toList = enclosed '\'' content) :
    readConstant text = some (.text (String.ofList content)) := by
  have read : readContent '\'' (doubled '\'' content ++ ['\'']) = some (content, []) :=
    readContent_doubled _ _ _ nofun
  unfold readConstant
  simp only [written, enclosed, read]

theorem readConstant_literal (s : String) : readConstant (literal s) = some (.text s) := by
  have written : (literal s).toList = enclosed '\'' s.toList := String.toList_ofList
  rw [readConstant_enclosed written, String.ofList_toList]

/-- A date has no quotes in it, and is read back from between quotes. -/
theorem readConstant_date {s : String} (dated : ∀ c ∈ s.toList, isDateChar c = true) :
    readConstant ("'" ++ s ++ "'") = some (.text s) := by
  have unmarked : '\'' ∉ s.toList := fun member => absurd (dated _ member) (by decide)
  have written : ("'" ++ s ++ "'").toList = enclosed '\'' s.toList := by
    rw [String.toList_append, String.toList_append, enclosed, doubled_eq_self unmarked]
    rfl
  rw [readConstant_enclosed written, String.ofList_toList]

/-- A number begins with a minus or with a digit. -/
def startsNumber (c : Char) : Bool :=
  c == '-' || c.isDigit

theorem NumericConstant.IsProper.write_eq_cons {number : NumericConstant}
    (proper : number.IsProper) :
    ∃ first rest, number.write = first :: rest ∧ startsNumber first = true := by
  rcases proper.magnitude_eq_cons with ⟨first, rest, starts, digit⟩
  unfold NumericConstant.write
  split_ifs
  · exact ⟨'-', number.magnitude, rfl, rfl⟩
  · exact ⟨first, rest, starts, Bool.or_eq_true_iff.mpr (.inr digit)⟩

/-- A number is read as such, because it begins neither like a literal nor like a word. -/
theorem readConstant_number {text : String} {number : NumericConstant} (proper : number.IsProper)
    (written : number.write = text.toList) : readConstant text = some (.number number) := by
  rcases proper.write_eq_cons with ⟨first, rest, starts, numeric⟩
  have headed : text.toList = first :: rest := written.symm.trans starts
  have wordless : ∀ word : String, word.toList.head?.all startsNumber = false → text ≠ word := by
    rintro word other rfl
    rw [headed] at other
    exact absurd numeric (by simpa using other)
  have unquoted : first ≠ '\'' := by
    rintro rfl
    cases numeric
  unfold readConstant
  split
  · next same =>
    cases headed.symm.trans same
    exact absurd rfl unquoted
  · rw [if_neg (wordless _ rfl), if_neg (wordless _ rfl), if_neg (wordless _ rfl), ← written,
      number.readNumber_write proper]
    rfl

/-! ## Constants and names -/

/-- No part of a name is read from what a name cannot begin with. -/
theorem readPart_cons_of_alien {first : Lexeme} (alien : first.startsName = false)
    (rest : List Lexeme) : readPart (first :: rest) = none := by
  cases first with
  | bare c =>
    have unnamed : ∀ word, isBareWord (c :: word) = false := by
      intro word
      have outside : startsBare c = false := alien
      rw [isBareWord, isWordOf, outside]
      rfl
    show (do
      let word ← (Lexeme.bare c :: rest).mapM Lexeme.bare?
      if isBareWord word then some word else none) = none
    rw [List.mapM_cons]
    cases rest.mapM Lexeme.bare? with
    | none => rfl
    | some word => exact if_neg (by rw [unnamed]; decide)
  | quoted mark content =>
    unfold readPart
    split
    · next same =>
      cases same
      exact absurd (show true = false from alien) (by decide)
    · rw [List.mapM_cons]
      rfl

theorem exists_unread_piece {first : Lexeme} (alien : first.startsName = false)
    (rest : List Lexeme) :
    ∃ piece ∈ (first :: rest).splitOn (.bare '.'), readPart piece = none := by
  rw [List.splitOn, List.splitOnP_cons_eq_if_modifyHead]
  split_ifs
  · exact ⟨[], List.mem_cons_self, rfl⟩
  · cases pieces : rest.splitOnP (· == .bare '.') with
    | nil => exact absurd pieces (List.splitOnP_ne_nil _ _)
    | cons piece others =>
      exact ⟨first :: piece, List.mem_cons_self, readPart_cons_of_alien alien piece⟩

/-- A text whose first character begins no name is read as no name. -/
theorem readPath_eq_none {text : String} {first : Char} {rest : List Char}
    (headed : text.toList = first :: rest) (alien : startsBare first = false)
    (unquoted : first ≠ '"') : readPath text = none := by
  have opens : ∀ lexemes, lex (first :: rest) = some lexemes → ∃ lexeme later,
      lexemes = lexeme :: later ∧ lexeme.startsName = false := by
    intro lexemes read
    rw [lex] at read
    split_ifs at read with mark
    · split at read
      · cases read
      · rcases Option.map_eq_some_iff.mp read with ⟨later, -, rfl⟩
        exact ⟨_, later, rfl, beq_false_of_ne unquoted⟩
    · rcases Option.map_eq_some_iff.mp read with ⟨later, -, rfl⟩
      exact ⟨_, later, rfl, alien⟩
  unfold readPath
  rw [headed]
  cases read : lex (first :: rest) with
  | none => rfl
  | some lexemes =>
    rcases opens lexemes read with ⟨lexeme, later, rfl, strange⟩
    rcases exists_unread_piece strange later with ⟨piece, listed, unread⟩
    exact mapM_eq_none listed unread

theorem startsBare_of_startsNumber {c : Char} (numeric : startsNumber c = true) :
    startsBare c = false ∧ c ≠ '"' := by
  rcases Bool.or_eq_true_iff.mp numeric with minus | digit
  · cases beq_iff_eq.mp minus
    decide
  · have low : c ≤ '9' := of_decide_eq_true (Bool.and_eq_true_iff.mp digit).2
    constructor
    · refine Bool.eq_false_iff.mpr fun bare => ?_
      rcases Bool.or_eq_true_iff.mp bare with letter | underscore
      · have high : 'a' ≤ c := of_decide_eq_true (Bool.and_eq_true_iff.mp letter).1
        exact absurd (Char.le_trans high low) (by decide)
      · cases beq_iff_eq.mp underscore
        cases digit
    · rintro rfl
      cases digit

theorem startsNumber_of_readNumber {cs : List Char} {number : NumericConstant}
    (read : readNumber cs = some number) :
    ∃ first rest, cs = first :: rest ∧ startsNumber first = true := by
  unfold readNumber at read
  split at read
  · exact ⟨'-', _, rfl, rfl⟩
  · cases cs with
    | nil => cases read
    | cons first rest =>
      refine ⟨first, rest, rfl, Bool.or_eq_true_iff.mpr (.inr ?_)⟩
      by_contra other
      unfold readMagnitude at read
      rw [List.takeWhile_cons_of_neg other] at read
      rcases Option.bind_eq_some_iff.mp read with ⟨exponent, -, impossible⟩
      cases impossible

/-- No constant is a name. -/
theorem readPath_of_readConstant {text : String} {constant : Constant}
    (read : readConstant text = some constant) : readPath text = none := by
  unfold readConstant at read
  split at read
  · next rest headed => exact readPath_eq_none headed (by decide) (by decide)
  · split_ifs at read with null yes no
    · exact null ▸ readPath_eq_none rfl (by decide) (by decide)
    · exact yes ▸ readPath_eq_none rfl (by decide) (by decide)
    · exact no ▸ readPath_eq_none rfl (by decide) (by decide)
    · rcases Option.map_eq_some_iff.mp read with ⟨number, numeric, -⟩
      rcases startsNumber_of_readNumber numeric with ⟨first, rest, headed, starts⟩
      rcases startsBare_of_startsNumber starts with ⟨alien, unquoted⟩
      exact readPath_eq_none headed alien unquoted

/-! ## Numbers that are written as words -/

/-- A name of a single part that is written bare is read as it is. -/
theorem readPath_of_render (name : Identifier) {word : String} (shown : name.render = word)
    (single : (pathParts name.text).mapM (fun part => readPart (partLexemes part)) =
      some [word.toList]) : readPath word = some [word.toList] := by
  rw [← single, ← name.readPath_render, shown]

/-- A number without bounds is written as a word, perhaps behind a minus; so is what is no number.
The word is no constant, but a name. -/
theorem exists_word_of_not_finite {x : Decimal.Binary}
    (unbounded : ∀ negative mantissa exponent narrow,
      x ≠ .finite negative mantissa exponent narrow) :
    readConstant x.write = none ∧ ∃ word, readPath word = some [word.toList] ∧
      (x.write = word ∨ x.write = "-" ++ word) := by
  have nan : readPath "nan" = some ["nan".toList] := readPath_of_render ⟨"nan", rfl, rfl⟩ rfl rfl
  have infinity : readPath "inf" = some ["inf".toList] :=
    readPath_of_render ⟨"inf", rfl, rfl⟩ rfl rfl
  cases x with
  | notANumber => exact ⟨rfl, "nan", nan, .inl rfl⟩
  | infinite negative =>
    cases negative with
    | false => exact ⟨rfl, "inf", infinity, .inl rfl⟩
    | true => exact ⟨rfl, "inf", infinity, .inr rfl⟩
  | finite negative mantissa exponent narrow => exact absurd rfl (unbounded _ _ _ _)

end Sql
end PolicyStudio
