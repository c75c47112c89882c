import PolicyStudio.Proofs.Sql.Lexeme

/-!
# Sealed texts

A *sealed* text can be put into a statement without changing how the rest is read.
Its quotes are closed, its parentheses match, no neighbours in it run together, and
the number of its semicolons outside of quotes is known.  A piece of a statement has
none of these, and a whole statement has one.

Sealed texts are put together with *glue*: a sealed text of its own that begins and
ends with a character beside which nothing runs together.  So nothing has to be known
about the first and the last character of the pieces, which are often a caller's.
-/

namespace PolicyStudio
namespace Sql

/-! ## Parentheses -/

/-- The depth of parentheses after a lexeme; there is none before the outermost. -/
def Lexeme.level? (depth : Nat) : Lexeme → Option Nat
  | .bare c =>
    if c = '(' then some (depth + 1)
    else if c = ')' then (if depth = 0 then none else some (depth - 1))
    else some depth
  | .quoted .. => some depth

/-- The depth of parentheses after lexemes, unless one of them closes too much. -/
def level (depth : Nat) (lexemes : List Lexeme) : Option Nat :=
  lexemes.foldlM Lexeme.level? depth

theorem level_append (depth : Nat) (first second : List Lexeme) :
    level depth (first ++ second) = (level depth first).bind fun reached => level reached second :=
  List.foldlM_append

theorem level_cons (depth : Nat) (first : Lexeme) (rest : List Lexeme) :
    level depth (first :: rest) = (first.level? depth).bind fun reached => level reached rest :=
  List.foldlM_cons

/-- A step between depths is the same step at every greater depth. -/
theorem Lexeme.level?_add {lexeme : Lexeme} {depth reached : Nat}
    (stepped : lexeme.level? depth = some reached) (more : Nat) :
    lexeme.level? (depth + more) = some (reached + more) := by
  cases lexeme with
  | quoted mark content =>
    cases stepped
    rfl
  | bare c =>
    simp only [Lexeme.level?, Nat.add_eq_zero_iff] at stepped ⊢
    split_ifs at stepped ⊢ <;> simp only [Option.some.injEq] at stepped ⊢ <;> omega

/-- What matches at one depth matches at every greater depth. -/
theorem level_add {depth reached : Nat} {lexemes : List Lexeme}
    (matched : level depth lexemes = some reached) (more : Nat) :
    level (depth + more) lexemes = some (reached + more) := by
  induction lexemes generalizing depth with
  | nil =>
    cases matched
    rfl
  | cons first rest inductionHypothesis =>
    rw [level_cons] at matched ⊢
    rcases Option.bind_eq_some_iff.mp matched with ⟨next, stepped, restMatched⟩
    rw [Lexeme.level?_add stepped]
    exact inductionHypothesis restMatched

/-! ## Blanks outside of parentheses -/

/-- No space stands outside of quotes and parentheses. -/
def isTight (depth : Nat) : List Lexeme → Bool
  | [] => true
  | first :: rest =>
    (depth != 0 || first != .bare ' ') && isTight ((first.level? depth).getD 0) rest

theorem isTight_append {depth reached : Nat} {first : List Lexeme} (second : List Lexeme)
    (matched : level depth first = some reached) :
    isTight depth (first ++ second) = (isTight depth first && isTight reached second) := by
  induction first generalizing depth with
  | nil =>
    cases matched
    rfl
  | cons lexeme rest inductionHypothesis =>
    rw [level_cons] at matched
    rcases Option.bind_eq_some_iff.mp matched with ⟨next, stepped, restMatched⟩
    rw [List.cons_append, isTight, isTight, stepped, Option.getD_some,
      inductionHypothesis restMatched, Bool.and_assoc]

/-- Without spaces there is none outside of parentheses. -/
theorem isTight_of_forall {lexemes : List Lexeme} (blankless : ∀ lexeme ∈ lexemes, lexeme ≠ .bare ' ')
    (depth : Nat) : isTight depth lexemes = true := by
  induction lexemes generalizing depth with
  | nil => rfl
  | cons first rest inductionHypothesis =>
    have different := blankless first List.mem_cons_self
    rw [isTight, inductionHypothesis (fun lexeme member => blankless lexeme (List.mem_cons_of_mem _ member)),
      Bool.and_true, Bool.or_eq_true]
    exact Or.inr (bne_iff_ne.mpr different)

/-- Within parentheses no space is outside of them. -/
theorem isTight_succ {depth reached : Nat} {lexemes : List Lexeme}
    (matched : level depth lexemes = some reached) : isTight (depth + 1) lexemes = true := by
  induction lexemes generalizing depth with
  | nil => rfl
  | cons first rest inductionHypothesis =>
    rw [level_cons] at matched
    rcases Option.bind_eq_some_iff.mp matched with ⟨next, stepped, restMatched⟩
    rw [isTight, Lexeme.level?_add stepped, Option.getD_some, inductionHypothesis restMatched,
      Bool.and_true, Bool.or_eq_true]
    exact Or.inl (bne_iff_ne.mpr (Nat.succ_ne_zero depth))

/-! ## Sealed texts and glue -/

/-- Lexemes that can stand anywhere, with a number of semicolons. -/
structure Sealed (ends : Nat) (lexemes : List Lexeme) : Prop where
  proper : ∀ lexeme ∈ lexemes, lexeme.isProper = true
  apart : lexemes.IsChain fun first second => first.merges second = false
  balanced : level 0 lexemes = some 0
  ends_eq : lexemes.count (.bare ';') = ends

instance (ends : Nat) (lexemes : List Lexeme) : Decidable (Sealed ends lexemes) :=
  decidable_of_iff
    ((∀ lexeme ∈ lexemes, lexeme.isProper = true) ∧
      (lexemes.IsChain fun first second => first.merges second = false) ∧
      level 0 lexemes = some 0 ∧ lexemes.count (.bare ';') = ends)
    ⟨fun ⟨proper, apart, balanced, ends_eq⟩ => ⟨proper, apart, balanced, ends_eq⟩,
      fun ⟨proper, apart, balanced, ends_eq⟩ => ⟨proper, apart, balanced, ends_eq⟩⟩

/-- Beside this lexeme nothing runs together. -/
def Lexeme.isBreak : Lexeme → Bool
  | .bare c => [' ', '\n', '(', ')', ',', '.', ':', ';'].contains c
  | .quoted .. => false

theorem Lexeme.merges_of_isBreak {first second : Lexeme}
    (separate : first.isBreak = true ∨ second.isBreak = true) : first.merges second = false := by
  rcases separate with separate | separate
  · cases first with
    | quoted mark content => cases separate
    | bare c =>
      simp only [isBreak, List.contains_eq_mem, List.mem_cons, List.not_mem_nil, or_false,
        decide_eq_true_eq] at separate
      rcases separate with equal | equal | equal | equal | equal | equal | equal | equal <;>
        subst equal <;> cases second <;> rfl
  · cases second with
    | quoted mark content => cases separate
    | bare c =>
      simp only [isBreak, List.contains_eq_mem, List.mem_cons, List.not_mem_nil, or_false,
        decide_eq_true_eq] at separate
      rcases separate with equal | equal | equal | equal | equal | equal | equal | equal <;>
        subst equal <;> cases first <;> simp [merges, opensComment]

/-- Nothing merges with lexemes that begin with a break. -/
theorem apart_before_break {first second : List Lexeme}
    (separate : second.head?.any Lexeme.isBreak = true) :
    ∀ last ∈ first.getLast?, ∀ next ∈ second.head?, last.merges next = false := by
  intro last _ next headed
  rw [headed] at separate
  exact Lexeme.merges_of_isBreak (Or.inr separate)

/-- Nothing merges with lexemes that end with a break. -/
theorem apart_behind_break {first second : List Lexeme}
    (separate : first.getLast?.any Lexeme.isBreak = true) :
    ∀ last ∈ first.getLast?, ∀ next ∈ second.head?, last.merges next = false := by
  intro last ended next _
  rw [ended] at separate
  exact Lexeme.merges_of_isBreak (Or.inl separate)

namespace Sealed

variable {m n : Nat} {first second : List Lexeme}

theorem nil : Sealed 0 [] := by decide

/-- The depth is the same behind a sealed text as before it. -/
theorem level_eq (closed : Sealed n first) (depth : Nat) : level depth first = some depth := by
  have lifted := level_add closed.balanced depth
  simpa only [Nat.zero_add] using lifted

theorem append (before : Sealed m first) (after : Sealed n second)
    (joint : ∀ last ∈ first.getLast?, ∀ next ∈ second.head?, last.merges next = false) :
    Sealed (m + n) (first ++ second) where
  proper lexeme member := (List.mem_append.mp member).elim (before.proper lexeme) (after.proper lexeme)
  apart := before.apart.append after.apart joint
  balanced := by
    rw [level_append, before.balanced]
    exact after.balanced
  ends_eq := by rw [List.count_append, before.ends_eq, after.ends_eq]

/-- A sealed text stays sealed in parentheses. -/
theorem parenthesized (inner : Sealed n first) :
    Sealed n (.bare '(' :: (first ++ [.bare ')'])) where
  proper lexeme member := by
    rcases List.mem_cons.mp member with equal | member
    · subst equal
      rfl
    · rcases List.mem_append.mp member with member | member
      · exact inner.proper lexeme member
      · rw [List.mem_singleton.mp member]
        rfl
  apart := by
    have closing : List.IsChain (fun last next => Lexeme.merges last next = false)
        (first ++ [Lexeme.bare ')']) :=
      inner.apart.append (List.isChain_singleton _) (apart_before_break rfl)
    exact closing.cons fun next _ => Lexeme.merges_of_isBreak (Or.inl rfl)
  balanced := by
    rw [level_cons]
    change level 1 (first ++ [.bare ')']) = some 0
    rw [level_append, inner.level_eq]
    rfl
  ends_eq := by
    rw [List.count_cons, List.count_append, inner.ends_eq]
    rfl

end Sealed

/-- A sealed text without semicolons that begins and ends with a break. -/
structure Glue (lexemes : List Lexeme) : Prop where
  closed : Sealed 0 lexemes
  starts : lexemes.head?.any Lexeme.isBreak = true
  finishes : lexemes.getLast?.any Lexeme.isBreak = true

instance (lexemes : List Lexeme) : Decidable (Glue lexemes) :=
  decidable_of_iff
    (Sealed 0 lexemes ∧ lexemes.head?.any Lexeme.isBreak = true ∧
      lexemes.getLast?.any Lexeme.isBreak = true)
    ⟨fun ⟨closed, starts, finishes⟩ => ⟨closed, starts, finishes⟩,
      fun ⟨closed, starts, finishes⟩ => ⟨closed, starts, finishes⟩⟩

/-- Glue joins any two sealed texts. -/
theorem Sealed.join {m n : Nat} {first glue second : List Lexeme} (before : Sealed m first)
    (between : Glue glue) (after : Sealed n second) : Sealed (m + n) (first ++ (glue ++ second)) := by
  have joined : Sealed n (glue ++ second) := by
    have plain := between.closed.append after (apart_behind_break between.finishes)
    rwa [Nat.zero_add] at plain
  refine before.append joined (apart_before_break ?_)
  have starts := between.starts
  cases glue with
  | nil => cases starts
  | cons next rest => exact starts

/-! ## Characters that only spell words -/

/-- A character that never stands for anything but itself. -/
def isInert (c : Char) : Bool :=
  !isMark c && !(['$', ';', '-', '/', '(', ')'].contains c)

private theorem level?_bare {c : Char} (inert : isInert c = true) (depth : Nat) :
    (Lexeme.bare c).level? depth = some depth := by
  have opening : c ≠ '(' := by
    rintro rfl
    exact absurd inert (by decide)
  have closing : c ≠ ')' := by
    rintro rfl
    exact absurd inert (by decide)
  rw [Lexeme.level?, if_neg opening, if_neg closing]

theorem Sealed.bares {cs : List Char} (inert : ∀ c ∈ cs, isInert c = true) :
    Sealed 0 (bares cs) := by
  induction cs with
  | nil => exact Sealed.nil
  | cons c rest inductionHypothesis =>
    have restSealed := inductionHypothesis fun d member => inert d (List.mem_cons_of_mem _ member)
    have first := inert c List.mem_cons_self
    simp only [isInert, Bool.and_eq_true, Bool.not_eq_true', List.contains_eq_mem,
      decide_eq_false_iff_not, List.mem_cons, List.not_mem_nil, or_false, not_or] at first
    exact {
      proper := by
        intro lexeme member
        rcases List.mem_cons.mp member with equal | member
        · subst equal
          simp only [Lexeme.isProper, first.1, Bool.not_false, Bool.true_and, bne_iff_ne]
          exact first.2.1
        · exact restSealed.proper lexeme member
      apart := by
        refine restSealed.apart.cons ?_
        intro next headed
        rcases List.mem_map.mp (List.mem_of_mem_head? headed) with ⟨d, _, equal⟩
        subst equal
        simp [Lexeme.merges, Lexeme.opensComment, first.2.2.2.1, first.2.2.2.2.1]
      balanced := by
        change level 0 (.bare c :: Sql.bares rest) = some 0
        rw [level_cons, level?_bare (inert c List.mem_cons_self)]
        exact restSealed.balanced
      ends_eq := by
        change List.count _ (.bare c :: Sql.bares rest) = 0
        rw [List.count_cons, restSealed.ends_eq]
        simp [first.2.2.1] }

/-- Sealed lexemes without a semicolon and without a space outside of parentheses. -/
structure Compact (lexemes : List Lexeme) : Prop where
  closed : Sealed 0 lexemes
  tight : isTight 0 lexemes = true

namespace Compact

variable {first second : List Lexeme}

theorem append (before : Compact first) (after : Compact second)
    (joint : ∀ last ∈ first.getLast?, ∀ next ∈ second.head?, last.merges next = false) :
    Compact (first ++ second) where
  closed := before.closed.append after.closed joint
  tight := by rw [isTight_append second before.closed.balanced, before.tight, after.tight, Bool.and_true]

/-- Between parentheses any sealed text is compact. -/
theorem parenthesized (inner : Sealed 0 first) : Compact (.bare '(' :: (first ++ [.bare ')'])) where
  closed := inner.parenthesized
  tight := by
    change isTight 1 (first ++ [.bare ')']) = true
    rw [isTight_append _ (inner.level_eq 1), isTight_succ inner.balanced]
    rfl

theorem bares {cs : List Char} (inert : ∀ c ∈ cs, isInert c = true ∧ c ≠ ' ') :
    Compact (bares cs) where
  closed := Sealed.bares fun c member => (inert c member).1
  tight := by
    refine isTight_of_forall (fun lexeme member => ?_) 0
    rcases List.mem_map.mp member with ⟨c, written, equal⟩
    subst equal
    intro same
    exact (inert c written).2 (Lexeme.bare.inj same)

/-- A quoted text is compact whatever it holds. -/
theorem quoted {mark : Char} (isMark : isMark mark = true) (content : List Char) :
    Compact [.quoted mark content] where
  closed := {
    proper := fun lexeme member => by
      rw [List.mem_singleton.mp member]
      exact isMark
    apart := List.isChain_singleton _
    balanced := rfl
    ends_eq := rfl }
  tight := rfl

end Compact

end Sql
end PolicyStudio
