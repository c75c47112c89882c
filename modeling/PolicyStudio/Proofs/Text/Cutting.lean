import PolicyStudio.Text.Blank
import PolicyStudio.Text.CharSet
import PolicyStudio.Text.Utf8

/-!
# Texts cut, trimmed and read by lines

A text is cut at every occurrence of a character.  There is always a first piece, to
which everything up to the first cut goes, and no piece holds the character.

A text is trimmed if no blank stands at either end of it.  Removing the blanks at both
ends makes it so.

Lines end with a line feed, with a carriage return, or with both in this order.  A text is read
with a line feed for each of these ends and is the same text otherwise.  `ReadsAs` says so by
itself, without the characters that were found before, and `lineFeeds` gives what it says.
-/

namespace PolicyStudio
namespace Text

/-! ## Cutting -/

theorem cutAt_ne_nil (mark : Char) (cs : List Char) : cutAt mark cs ≠ [] := by
  cases cs with
  | nil => exact List.cons_ne_nil _ _
  | cons first rest =>
    unfold cutAt
    rw [List.foldr_cons]
    split
    · exact List.cons_ne_nil _ _
    · split <;> exact List.cons_ne_nil _ _

theorem cutAt_cons_self (mark : Char) (rest : List Char) :
    cutAt mark (mark :: rest) = [] :: cutAt mark rest :=
  if_pos rfl

/-- What is not cut goes to the first piece. -/
theorem exists_cutAt_cons {mark first : Char} (different : first ≠ mark) (rest : List Char) :
    ∃ piece pieces, cutAt mark rest = piece :: pieces ∧
      cutAt mark (first :: rest) = (first :: piece) :: pieces := by
  rcases List.exists_cons_of_ne_nil (cutAt_ne_nil mark rest) with ⟨piece, pieces, cut⟩
  refine ⟨piece, pieces, cut, ?_⟩
  unfold cutAt at cut ⊢
  rw [List.foldr_cons, if_neg different, cut]

/-- Cutting loses nothing but the mark. -/
theorem mem_cutAt (mark : Char) {c : Char} {cs : List Char} (member : c ∈ cs) :
    c = mark ∨ ∃ piece ∈ cutAt mark cs, c ∈ piece := by
  induction cs with
  | nil => cases member
  | cons first rest inductionHypothesis =>
    by_cases cut : first = mark
    · subst cut
      rw [cutAt_cons_self]
      rcases List.mem_cons.mp member with equal | member
      · exact Or.inl equal
      · rcases inductionHypothesis member with equal | ⟨piece, listed, inside⟩
        · exact Or.inl equal
        · exact Or.inr ⟨piece, List.mem_cons_of_mem _ listed, inside⟩
    · rcases exists_cutAt_cons cut rest with ⟨head, tail, pieces, grown⟩
      rw [pieces] at inductionHypothesis
      rw [grown]
      rcases List.mem_cons.mp member with equal | member
      · exact Or.inr ⟨first :: head, List.mem_cons_self, equal ▸ List.mem_cons_self⟩
      · rcases inductionHypothesis member with equal | ⟨piece, listed, inside⟩
        · exact Or.inl equal
        · rcases List.mem_cons.mp listed with equal | listed
          · exact Or.inr ⟨first :: head, List.mem_cons_self, List.mem_cons_of_mem _ (equal ▸ inside)⟩
          · exact Or.inr ⟨piece, List.mem_cons_of_mem _ listed, inside⟩

/-- A text without the mark stays in one piece. -/
theorem cutAt_eq_singleton {mark : Char} {cs : List Char} (unmarked : mark ∉ cs) :
    cutAt mark cs = [cs] := by
  induction cs with
  | nil => rfl
  | cons first rest inductionHypothesis =>
    have different : first ≠ mark := fun equal => unmarked (equal ▸ List.mem_cons_self)
    have whole := inductionHypothesis fun member => unmarked (List.mem_cons_of_mem _ member)
    rcases exists_cutAt_cons different rest with ⟨piece, pieces, cut, grown⟩
    rw [whole] at cut
    cases cut
    exact grown

/-- The mark does not stand in the pieces. -/
theorem not_mem_of_mem_cutAt {mark : Char} {cs piece : List Char} (listed : piece ∈ cutAt mark cs) :
    mark ∉ piece := by
  induction cs generalizing piece with
  | nil =>
    rw [List.mem_singleton.mp listed]
    exact List.not_mem_nil
  | cons first rest inductionHypothesis =>
    by_cases cut : first = mark
    · subst cut
      rw [cutAt_cons_self] at listed
      rcases List.mem_cons.mp listed with equal | listed
      · rw [equal]
        exact List.not_mem_nil
      · exact inductionHypothesis listed
    · rcases exists_cutAt_cons cut rest with ⟨head, tail, pieces, grown⟩
      rw [pieces] at inductionHypothesis
      rw [grown] at listed
      rcases List.mem_cons.mp listed with equal | listed
      · rw [equal]
        rintro (_ | ⟨_, inside⟩)
        · exact cut rfl
        · exact inductionHypothesis List.mem_cons_self inside
      · exact inductionHypothesis (List.mem_cons_of_mem _ listed)

theorem cutAt_eq_splitOn (mark : Char) (cs : List Char) : cutAt mark cs = cs.splitOn mark := by
  induction cs with
  | nil => rfl
  | cons first rest inductionHypothesis =>
    rw [List.splitOn_cons_eq_if_modifyHead, ← inductionHypothesis]
    by_cases cut : first = mark
    · subst cut
      rw [cutAt_cons_self, if_pos (beq_self_eq_true _)]
    · rcases exists_cutAt_cons cut rest with ⟨piece, pieces, before, grown⟩
      rw [grown, before, if_neg fun equal => cut (eq_of_beq equal)]
      rfl

/-- The pieces are the only ones without the mark that make the text when put together with it. -/
theorem cutAt_eq_iff {mark : Char} {cs : List Char} {pieces : List (List Char)} :
    cutAt mark cs = pieces ↔
      pieces ≠ [] ∧ (∀ piece ∈ pieces, mark ∉ piece) ∧ cs = [mark].intercalate pieces := by
  constructor
  · rintro rfl
    refine ⟨cutAt_ne_nil mark cs, fun piece => not_mem_of_mem_cutAt, ?_⟩
    rw [cutAt_eq_splitOn, List.intercalate_splitOn]
  · rintro ⟨some, unmarked, rfl⟩
    rw [cutAt_eq_splitOn, List.splitOn_intercalate _ unmarked some]

/-! ## Trimming -/

/-- No blank stands at either end. -/
def IsTrimmed (s : String) : Prop :=
  (∀ c ∈ s.toList.head?, isBlank c = false) ∧ ∀ c ∈ s.toList.getLast?, isBlank c = false

-- Named, since a search may find the instance that goes through all characters.
instance (s : String) : Decidable (IsTrimmed s) :=
  @instDecidableAnd _ _ (Option.decidableForallMem _) (Option.decidableForallMem _)

theorem isBlank_head?_dropWhile (cs : List Char) :
    ∀ c ∈ (cs.dropWhile isBlank).head?, isBlank c = false := by
  intro c first
  have found := List.head?_dropWhile_not isBlank cs
  rwa [Option.mem_def.mp first] at found

/-- What is removed at the end leaves the first character where it is, if any is left. -/
theorem head?_of_mem_head?_trimEnd {cs : List Char} {c : Char} (first : c ∈ (trimEnd cs).head?) :
    c ∈ cs.head? := by
  have front : trimEnd cs <+: cs := by
    have back : cs.reverse.dropWhile isBlank <:+ cs.reverse := List.dropWhile_suffix isBlank
    rw [← List.reverse_prefix, List.reverse_reverse] at back
    exact back
  rcases front with ⟨removed, equal⟩
  rcases List.head?_eq_some_iff.mp first with ⟨rest, kept⟩
  rw [← equal, kept]
  rfl

theorem isTrimmed_strip (s : String) : IsTrimmed (strip s) := by
  rw [IsTrimmed, strip, String.toList_ofList]
  constructor
  · intro c first
    exact isBlank_head?_dropWhile s.toList c (head?_of_mem_head?_trimEnd first)
  · intro c last
    rw [trim, trimEnd, List.getLast?_reverse] at last
    exact isBlank_head?_dropWhile _ c last

/-- A text and what it is read as. -/
inductive ReadsAs : List Char → List Char → Prop
  | nil : ReadsAs [] []
  | both {rest read : List Char} (further : ReadsAs rest read) :
      ReadsAs ('\r' :: '\n' :: rest) ('\n' :: read)
  | alone {rest read : List Char} (apart : rest.head? ≠ some '\n') (further : ReadsAs rest read) :
      ReadsAs ('\r' :: rest) ('\n' :: read)
  | plain {c : Char} {rest read : List Char} (other : c ≠ '\r') (further : ReadsAs rest read) :
      ReadsAs (c :: rest) (c :: read)

theorem exists_lineFeedsFrom (found cs : List Char) :
    ∃ read, ReadsAs cs read ∧ lineFeedsFrom found cs = found.reverse ++ read := by
  fun_induction lineFeedsFrom found cs with
  | case1 found => exact ⟨[], .nil, (List.append_nil _).symm⟩
  | case2 found rest inductionHypothesis =>
    rcases inductionHypothesis with ⟨read, further, equal⟩
    exact ⟨'\n' :: read, .both further, by simp [equal]⟩
  | case3 found rest apart inductionHypothesis =>
    rcases inductionHypothesis with ⟨read, further, equal⟩
    have head : rest.head? ≠ some '\n' := by
      intro follows
      rcases List.head?_eq_some_iff.mp follows with ⟨others, rfl⟩
      exact apart others rfl
    exact ⟨'\n' :: read, .alone head further, by simp [equal]⟩
  | case4 found c rest _ other inductionHypothesis =>
    rcases inductionHypothesis with ⟨read, further, equal⟩
    exact ⟨c :: read, .plain other further, by simp [equal]⟩

theorem readsAs_lineFeeds (cs : List Char) : ReadsAs cs (lineFeeds cs) := by
  rcases exists_lineFeedsFrom [] cs with ⟨read, readsAs, equal⟩
  rw [lineFeeds, equal]
  exact readsAs

/-- There is one way to read a text. -/
theorem ReadsAs.unique {cs read other : List Char} (first : ReadsAs cs read)
    (second : ReadsAs cs other) : read = other := by
  induction first generalizing other with
  | nil =>
    cases second
    rfl
  | both further inductionHypothesis =>
    cases second with
    | both others => rw [inductionHypothesis others]
    | alone apart others => exact absurd rfl apart
    | plain unequal others => exact absurd rfl unequal
  | alone apart further inductionHypothesis =>
    cases second with
    | both others => exact absurd rfl apart
    | alone _ others => rw [inductionHypothesis others]
    | plain unequal others => exact absurd rfl unequal
  | plain unequal further inductionHypothesis =>
    cases second with
    | both others => exact absurd rfl unequal
    | alone apart others => exact absurd rfl unequal
    | plain _ others => rw [inductionHypothesis others]

/-- Reading is replacing the ends of lines. -/
theorem lineFeeds_eq_iff {cs read : List Char} : lineFeeds cs = read ↔ ReadsAs cs read := by
  constructor
  · intro equal
    exact equal ▸ readsAs_lineFeeds cs
  · intro readsAs
    exact (readsAs_lineFeeds cs).unique readsAs

/-- A text without carriage returns is read as it is. -/
theorem lineFeeds_eq_self {cs : List Char} (plain : '\r' ∉ cs) : lineFeeds cs = cs := by
  rw [lineFeeds_eq_iff]
  induction cs with
  | nil => exact .nil
  | cons c rest inductionHypothesis =>
    rw [List.mem_cons, not_or] at plain
    exact .plain (Ne.symm plain.1) (inductionHypothesis plain.2)

/-- What holds of the characters of texts and of what is between them holds of all together. -/
theorem all_intercalate {p : Char → Bool} {separator : List Char} {words : List (List Char)}
    (between : separator.all p = true) (each : ∀ word ∈ words, word.all p = true) :
    (separator.intercalate words).all p = true := by
  induction words with
  | nil => rfl
  | cons word rest inductionHypothesis =>
    have others := inductionHypothesis fun other member =>
      each other (List.mem_cons_of_mem _ member)
    cases rest with
    | nil => exact List.intercalate_singleton ▸ each word List.mem_cons_self
    | cons second rest =>
      rw [List.intercalate_cons_cons, List.all_append, List.all_append, others, between,
        each word List.mem_cons_self]
      rfl

end Text
end PolicyStudio
