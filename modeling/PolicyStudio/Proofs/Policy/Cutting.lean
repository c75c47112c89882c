import PolicyStudio.Policy.Condition
import PolicyStudio.Proofs.Sql.Sealed

/-!
# Cutting a text at its connectives

A reader of a condition looks for the words `AND` and `OR` with a space on either side,
outside of quotes and parentheses, and takes the text apart there.  `cut` is this
reader on lexemes and `cutText` on texts.

Lexemes that are passed without a cut, whatever follows them, are *uncut*.  They are put
together from words without spaces.  Between two words stands a space, which opens a
connective only if the second word begins in a certain way.
-/

namespace PolicyStudio
namespace Policy

open Sql

/-! ## The reader -/

/-- A connective with the spaces around its word, as it is read. -/
def Connective.lexemes (connective : Connective) : List Lexeme :=
  bares (" " ++ connective.word ++ " ").toList

/-- The connective that stands at the beginning. -/
def connectiveAt? (lexemes : List Lexeme) : Option Connective :=
  [Connective.all, .any].find? fun connective => connective.lexemes.isPrefixOf lexemes

/-- Cut at every connective outside of quotes and parentheses: the first piece, and each
connective with the piece behind it. -/
def cut (depth : Nat) : List Lexeme → List Lexeme × List (Connective × List Lexeme)
  | [] => ([], [])
  | first :: rest =>
    match if depth = 0 then connectiveAt? (first :: rest) else none with
    | some connective =>
      let behind := cut 0 (rest.drop connective.lexemes.tail.length)
      ([], (connective, behind.1) :: behind.2)
    | none =>
      let behind := cut ((first.level? depth).getD 0) rest
      (first :: behind.1, behind.2)
termination_by lexemes => lexemes.length
decreasing_by
  · simp only [List.length_drop, List.length_cons]
    omega
  · exact Nat.lt_succ_self _

/-- Cut a text: its pieces and the connectives between them, unless it ends inside of
quotes. -/
def cutText (text : String) : Option (List String × List Connective) :=
  (lex text.toList).map fun lexemes =>
    let pieces := cut 0 lexemes
    ((pieces.1 :: pieces.2.map Prod.snd).map fun piece => String.ofList (spell piece),
      pieces.2.map Prod.fst)

/-! ## Where a connective stands -/

theorem connectiveAt?_lexemes (connective : Connective) (rest : List Lexeme) :
    connectiveAt? (connective.lexemes ++ rest) = some connective := by
  cases connective <;> rfl

theorem connectiveAt?_eq_none {lexemes : List Lexeme}
    (absent : ∀ connective : Connective, connective.lexemes.isPrefixOf lexemes = false) :
    connectiveAt? lexemes = none :=
  List.find?_eq_none.mpr fun connective _ => by
    rw [absent connective]
    exact Bool.false_ne_true

/-- A connective begins with a space. -/
theorem connectiveAt?_of_ne {first : Lexeme} (different : first ≠ .bare ' ') (rest : List Lexeme) :
    connectiveAt? (first :: rest) = none := by
  have other : (Lexeme.bare ' ' == first) = false := beq_eq_false_iff_ne.mpr (Ne.symm different)
  refine connectiveAt?_eq_none fun connective => ?_
  cases connective <;> exact Bool.and_eq_false_iff.mpr (Or.inl other)

/-- Lexemes in front of everything that is read behind them. -/
def prepend (front : List Lexeme) (pieces : List Lexeme × List (Connective × List Lexeme)) :
    List Lexeme × List (Connective × List Lexeme) :=
  (front ++ pieces.1, pieces.2)

/-- A lexeme at which nothing is cut goes in front of what is read behind it. -/
theorem cut_cons {depth : Nat} {first : Lexeme} {rest : List Lexeme}
    (passed : depth ≠ 0 ∨ connectiveAt? (first :: rest) = none) :
    cut depth (first :: rest) = prepend [first] (cut ((first.level? depth).getD 0) rest) := by
  have none : (if depth = 0 then connectiveAt? (first :: rest) else none) = none := by
    split_ifs with outside
    · exact passed.resolve_left (not_not.mpr outside)
    · rfl
  rw [cut, none]
  rfl

/-- At a connective outside of parentheses a piece ends. -/
theorem cut_connective (connective : Connective) (rest : List Lexeme) :
    cut 0 (connective.lexemes ++ rest) =
      ([], (connective, (cut 0 rest).1) :: (cut 0 rest).2) := by
  have found := connectiveAt?_lexemes connective rest
  have spaced : connective.lexemes = .bare ' ' :: connective.lexemes.tail := by
    cases connective <;> rfl
  rw [spaced, List.cons_append] at found ⊢
  rw [cut, if_pos rfl, found]
  simp only [List.drop_left]

/-! ## Uncut lexemes -/

/-- Nothing is cut in the lexemes, whatever follows. -/
def Uncut (front : List Lexeme) : Prop :=
  ∀ rest, cut 0 (front ++ rest) = prepend front (cut 0 rest)

/-- A space before the lexemes opens no connective, whatever follows. -/
def Unconnected (word : List Lexeme) : Prop :=
  ∀ rest, connectiveAt? (.bare ' ' :: (word ++ rest)) = none

theorem cut_append {depth reached : Nat} {front : List Lexeme} (tight : isTight depth front = true)
    (matched : level depth front = some reached) (rest : List Lexeme) :
    cut depth (front ++ rest) = prepend front (cut reached rest) := by
  induction front generalizing depth with
  | nil =>
    cases matched
    rfl
  | cons first front inductionHypothesis =>
    rw [isTight, Bool.and_eq_true, Bool.or_eq_true, bne_iff_ne, bne_iff_ne] at tight
    rw [level_cons] at matched
    rcases Option.bind_eq_some_iff.mp matched with ⟨next, stepped, restMatched⟩
    rw [stepped, Option.getD_some] at tight
    have passed := tight.1.imp_right fun different => connectiveAt?_of_ne different (front ++ rest)
    rw [List.cons_append, cut_cons passed, stepped, Option.getD_some,
      inductionHypothesis tight.2 restMatched]
    rfl

/-- Compact lexemes are uncut. -/
theorem Uncut.of_compact {word : List Lexeme} (compact : Compact word) : Uncut word :=
  cut_append compact.tight compact.closed.balanced

/-- Two uncut texts with a space between them are uncut, if the space opens no connective. -/
theorem Uncut.spaced {first second : List Lexeme} (before : Uncut first) (after : Uncut second)
    (separate : Unconnected second) : Uncut (first ++ .bare ' ' :: second) := by
  intro rest
  rw [List.append_assoc, before, List.cons_append, cut_cons (Or.inr (separate rest))]
  change prepend first (prepend [.bare ' '] (cut 0 (second ++ rest))) = _
  rw [after]
  simp [prepend]

theorem Unconnected.append {first : List Lexeme} (separate : Unconnected first)
    (second : List Lexeme) : Unconnected (first ++ second) := by
  intro rest
  rw [List.append_assoc]
  exact separate (second ++ rest)

/-- The words of both connectives begin with a capital of their own. -/
theorem Unconnected.of_head {first : Lexeme} (all : first ≠ .bare 'A') (any : first ≠ .bare 'O')
    (rest : List Lexeme) : Unconnected (first :: rest) := by
  intro more
  refine connectiveAt?_eq_none fun connective => ?_
  cases connective with
  | all =>
    have other : (Lexeme.bare 'A' == first) = false := beq_eq_false_iff_ne.mpr (Ne.symm all)
    exact Bool.and_eq_false_iff.mpr (Or.inr (Bool.and_eq_false_iff.mpr (Or.inl other)))
  | any =>
    have other : (Lexeme.bare 'O' == first) = false := beq_eq_false_iff_ne.mpr (Ne.symm any)
    exact Bool.and_eq_false_iff.mpr (Or.inr (Bool.and_eq_false_iff.mpr (Or.inl other)))

theorem Unconnected.quoted (mark : Char) (content : List Char) (rest : List Lexeme) :
    Unconnected (.quoted mark content :: rest) :=
  Unconnected.of_head Lexeme.noConfusion Lexeme.noConfusion rest

/-- A word right before a parenthesis is not followed by a space. -/
theorem isPrefixOf_call {α : Type} [DecidableEq α] {space opening : α} (different : opening ≠ space)
    {front word : List α} (closed : opening ∉ front) (blankless : space ∉ word) (rest : List α) :
    List.isPrefixOf (front ++ [space]) (word ++ opening :: rest) = false := by
  induction front generalizing word with
  | nil =>
    cases word with
    | nil => exact Bool.and_eq_false_iff.mpr (Or.inl (beq_eq_false_iff_ne.mpr (Ne.symm different)))
    | cons first word =>
      have other : space ≠ first := fun equal => blankless (equal ▸ List.mem_cons_self)
      exact Bool.and_eq_false_iff.mpr (Or.inl (beq_eq_false_iff_ne.mpr other))
  | cons last front inductionHypothesis =>
    cases word with
    | nil =>
      have other : last ≠ opening := fun equal => closed (equal ▸ List.mem_cons_self)
      exact Bool.and_eq_false_iff.mpr (Or.inl (beq_eq_false_iff_ne.mpr other))
    | cons first word =>
      refine Bool.and_eq_false_iff.mpr (Or.inr ?_)
      exact inductionHypothesis (fun member => closed (List.mem_cons_of_mem _ member))
        (fun member => blankless (List.mem_cons_of_mem _ member))

/-- The name of a function may be the word of a connective, but a parenthesis follows. -/
theorem Unconnected.call {word : List Lexeme} (blankless : Lexeme.bare ' ' ∉ word) (rest : List Lexeme) :
    Unconnected (word ++ .bare '(' :: rest) := by
  intro more
  refine connectiveAt?_eq_none fun connective => ?_
  have inner : connective.lexemes = .bare ' ' :: (bares connective.word.toList ++ [.bare ' ']) := by
    cases connective <;> rfl
  have closed : Lexeme.bare '(' ∉ bares connective.word.toList := by
    cases connective <;> decide
  rw [inner, List.append_assoc, List.cons_append]
  exact Bool.and_eq_false_iff.mpr (Or.inr (isPrefixOf_call (by decide) closed blankless (rest ++ more)))

end Policy
end PolicyStudio
