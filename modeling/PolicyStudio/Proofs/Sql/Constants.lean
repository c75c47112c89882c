import PolicyStudio.Calendar.Date
import PolicyStudio.Decimal.Layout
import PolicyStudio.Proofs.Sql.Names

/-!
# Numbers and dates as lexemes

A number is written with digits, a point, an exponent and signs.  All of these are
inert except for the minus, which opens a comment beside another minus; it occurs at
the start and behind the `e` of an exponent, and a digit follows in both places.

A date is written between quotes.  It holds no quote itself, so nothing in it would
have to be doubled.
-/

namespace PolicyStudio
namespace Sql

/-! ## Digits -/

theorem isInert_of_isDigit {c : Char} (digit : c.isDigit = true) :
    isInert c = true ∧ c ≠ ' ' := by
  refine isInert_of_continuesPlain ?_
  simp only [Char.isDigit, Bool.and_eq_true, decide_eq_true_eq] at digit
  simp only [continuesPlain, Bool.or_eq_true, Bool.and_eq_true, decide_eq_true_eq]
  exact Or.inr digit

theorem isDigit_of_mem_repr {n : Nat} {c : Char} (member : c ∈ n.repr.toList) :
    c.isDigit = true := by
  rw [Nat.toList_repr] at member
  exact Nat.isDigit_of_mem_toDigits (by decide) (by decide) member

theorem isInert_of_mem_repr {n : Nat} : ∀ c ∈ n.repr.toList, isInert c = true ∧ c ≠ ' ' :=
  fun _ member => isInert_of_isDigit (isDigit_of_mem_repr member)

theorem isDigit_of_mem_padded {count n : Nat} {c : Char}
    (member : c ∈ (Text.padded count n).toList) : c.isDigit = true := by
  have gathered : ∀ (tail : List Char), (∀ d ∈ tail, d.isDigit = true) →
      ∀ d ∈ Text.digitsFrom count n tail, d.isDigit = true := by
    clear member
    induction count generalizing n with
    | zero => exact fun tail digits => digits
    | succ count inductionHypothesis =>
      intro tail digits
      refine inductionHypothesis _ ?_
      intro d member
      rcases List.mem_cons.mp member with equal | member
      · subst equal
        have small : ∀ k < 10, (Char.ofNat ('0'.toNat + k)).isDigit = true := by decide
        exact small _ (Nat.mod_lt n (by decide))
      · exact digits d member
  rw [Text.padded, String.toList_ofList] at member
  exact gathered [] (fun _ impossible => nomatch impossible) c member

/-! ## Signs -/

/-- Inert characters go before any compact characters. -/
theorem Compact.bares_append (first : List Char) {second : List Char}
    (inert : ∀ c ∈ first, isInert c = true ∧ c ≠ ' ') (after : Compact (Sql.bares second)) :
    Compact (Sql.bares (first ++ second)) := by
  rw [Sql.bares, List.map_append]
  refine (Compact.bares inert).append after ?_
  intro last ended next headed
  rcases List.mem_map.mp (List.mem_of_getLast? ended) with ⟨c, member, equal⟩
  rcases List.mem_map.mp (List.mem_of_mem_head? headed) with ⟨d, _, nextEqual⟩
  have calm := (inert c member).1
  subst equal nextEqual
  have minus : c ≠ '-' := by
    rintro rfl
    exact absurd calm (by decide)
  have slash : c ≠ '/' := by
    rintro rfl
    exact absurd calm (by decide)
  simp [Lexeme.merges, Lexeme.opensComment, minus, slash]

/-- A minus goes before compact characters that do not begin with another one. -/
theorem Compact.bares_minus {cs : List Char} (after : Compact (Sql.bares cs))
    (single : cs.head? ≠ some '-') : Compact (Sql.bares ('-' :: cs)) := by
  have minus : Compact [.bare '-'] := ⟨by decide, rfl⟩
  refine minus.append after ?_
  intro last ended next headed
  cases ended
  cases cs with
  | nil => cases headed
  | cons d rest =>
    cases headed
    have different : d ≠ '-' := fun equal => single (congrArg some equal)
    simp [Lexeme.merges, Lexeme.opensComment, different]

/-! ## Numbers -/

/-- A number is compact, and begins with a digit, a minus or a small letter. -/
structure Numeral (cs : List Char) : Prop where
  compact : Compact (bares cs)
  low : ∃ first rest, cs = first :: rest ∧ (first = '-' ∨ first = 'n' ∨ first = 'i' ∨ first.isDigit = true)

theorem head?_ne_minus_of_isDigit {cs : List Char} (digits : ∀ c ∈ cs.head?, c.isDigit = true) :
    cs.head? ≠ some '-' := by
  intro headed
  exact absurd (digits '-' headed) (by decide)

theorem compact_exponentText (n : Int) : Compact (bares (Decimal.exponentText n)) := by
  have digits : ∀ c ∈ (if n.natAbs.repr.toList.length < 2 then '0' :: n.natAbs.repr.toList
      else n.natAbs.repr.toList), c.isDigit = true := by
    intro c member
    split_ifs at member
    · rcases List.mem_cons.mp member with equal | member
      · exact equal ▸ by decide
      · exact isDigit_of_mem_repr member
    · exact isDigit_of_mem_repr member
  have compact := Compact.bares fun c member => isInert_of_isDigit (digits c member)
  unfold Decimal.exponentText
  by_cases negative : n < 0
  · simp only [negative, if_true]
    refine compact.bares_minus (head?_ne_minus_of_isDigit ?_)
    exact fun c headed => digits c (List.mem_of_mem_head? headed)
  · simp only [negative, if_false]
    exact Compact.bares_append ['+'] (List.forall_mem_singleton.mpr (by decide)) compact

/-- A number without a sign is compact and begins with a digit. -/
structure Magnitude (cs : List Char) : Prop where
  compact : Compact (bares cs)
  digit : ∃ first rest, cs = first :: rest ∧ first.isDigit = true

theorem Magnitude.numeral {cs : List Char} (magnitude : Magnitude cs) : Numeral cs where
  compact := magnitude.compact
  low := by
    rcases magnitude.digit with ⟨first, rest, equal, digit⟩
    exact ⟨first, rest, equal, Or.inr (Or.inr (Or.inr digit))⟩

theorem Magnitude.minus {cs : List Char} (magnitude : Magnitude cs) : Numeral ('-' :: cs) where
  compact := by
    refine magnitude.compact.bares_minus (head?_ne_minus_of_isDigit ?_)
    rcases magnitude.digit with ⟨first, rest, equal, digit⟩
    intro c headed
    rw [equal] at headed
    exact Option.some.inj headed ▸ digit
  low := ⟨'-', cs, rfl, Or.inl rfl⟩

theorem magnitude_repr (n : Nat) : Magnitude n.repr.toList where
  compact := Compact.bares isInert_of_mem_repr
  digit := by
    cases digits : n.repr.toList with
    | nil =>
      rw [Nat.toList_repr] at digits
      exact absurd digits Nat.toDigits_ne_nil
    | cons first rest =>
      exact ⟨first, rest, rfl, isDigit_of_mem_repr (n := n) (digits ▸ List.mem_cons_self)⟩

theorem magnitude_positional {d : Decimal.Digits} (digits : ∀ c ∈ d.digits, c.isDigit = true) :
    Magnitude (Decimal.positional d) := by
  have inert : ∀ c ∈ d.digits, isInert c = true ∧ c ≠ ' ' :=
    fun c member => isInert_of_isDigit (digits c member)
  have zeros : ∀ {k : Nat}, ∀ c ∈ List.replicate k '0', isInert c = true ∧ c ≠ ' ' := by
    intro k c member
    rw [List.eq_of_mem_replicate member]
    decide
  unfold Decimal.positional
  by_cases below : d.point ≤ 0
  · simp only [below, if_true]
    have lead : ∀ c ∈ ['0', '.'], isInert c = true ∧ c ≠ ' ' :=
      List.forall_mem_cons.mpr ⟨by decide, List.forall_mem_singleton.mpr (by decide)⟩
    refine ⟨Compact.bares_append _ lead ?_, '0', _, rfl, by decide⟩
    exact Compact.bares_append _ zeros (Compact.bares inert)
  · have positive : d.point.toNat = d.point.toNat - 1 + 1 := by omega
    simp only [below, if_false]
    split_ifs with within
    · constructor
      · have ending : Compact (bares ['.', '0']) := ⟨by decide, rfl⟩
        refine Compact.bares_append _ ?_ ending
        exact fun c member => (List.mem_append.mp member).elim (inert c) (zeros c)
      · cases shown : d.digits with
        | nil =>
          rw [positive]
          exact ⟨'0', _, rfl, by decide⟩
        | cons first rest => exact ⟨first, _, rfl, digits first (shown ▸ List.mem_cons_self)⟩
    · constructor
      · refine Compact.bares_append _ (fun c member => inert c (List.mem_of_mem_take member)) ?_
        refine Compact.bares_append ['.'] (List.forall_mem_singleton.mpr (by decide)) ?_
        exact Compact.bares fun c member => inert c (List.mem_of_mem_drop member)
      · cases shown : d.digits with
        | nil =>
          rw [shown] at within
          exact absurd (Nat.zero_le _) within
        | cons first rest =>
          rw [positive]
          exact ⟨first, _, rfl, digits first (shown ▸ List.mem_cons_self)⟩

theorem magnitude_scientific {d : Decimal.Digits} (digits : ∀ c ∈ d.digits, c.isDigit = true) :
    Magnitude (Decimal.scientific d) := by
  have exponent : Compact (bares ('e' :: Decimal.exponentText (d.point - 1))) :=
    Compact.bares_append ['e'] (List.forall_mem_singleton.mpr (by decide)) (compact_exponentText _)
  unfold Decimal.scientific
  cases shown : d.digits with
  | nil => exact ⟨⟨(by decide : Sealed 0 (bares ['0'])), rfl⟩, '0', [], rfl, by decide⟩
  | cons first rest =>
    rw [shown] at digits
    have digit := digits first List.mem_cons_self
    have leading : ∀ c ∈ [first], isInert c = true ∧ c ≠ ' ' := by
      intro c member
      exact List.mem_singleton.mp member ▸ isInert_of_isDigit digit
    cases rest with
    | nil => exact ⟨Compact.bares_append [first] leading exponent, first, _, rfl, digit⟩
    | cons second rest =>
      have fraction : Compact (bares ('.' :: second :: rest ++ 'e' :: Decimal.exponentText (d.point - 1))) := by
        refine Compact.bares_append ('.' :: second :: rest) ?_ exponent
        intro c member
        rcases List.mem_cons.mp member with equal | member
        · exact equal ▸ by decide
        · exact isInert_of_isDigit (digits c (List.mem_cons_of_mem _ member))
      exact ⟨Compact.bares_append [first] leading fraction, first, _, rfl, digit⟩

theorem magnitude_write {d : Decimal.Digits} (digits : ∀ c ∈ d.digits, c.isDigit = true) :
    Magnitude d.write := by
  unfold Decimal.Digits.write
  split_ifs
  · exact magnitude_positional digits
  · exact magnitude_scientific digits

theorem isDigit_of_mem_shortest {mantissa : Nat} {exponent : Int} {narrow : Bool} {c : Char}
    (member : c ∈ (Decimal.shortest mantissa exponent narrow).digits) : c.isDigit = true := by
  unfold Decimal.shortest Decimal.Digits.ofScaled Decimal.significant at member
  have kept := (List.dropWhile_sublist _).mem (List.mem_reverse.mp member)
  exact isDigit_of_mem_repr (List.mem_reverse.mp kept)

theorem numeral_write (number : Decimal.Binary) : Numeral number.write.toList := by
  cases number with
  | notANumber => exact ⟨⟨by decide, rfl⟩, 'n', _, rfl, Or.inr (Or.inl rfl)⟩
  | infinite negative =>
    cases negative with
    | false => exact ⟨⟨by decide, rfl⟩, 'i', _, rfl, Or.inr (Or.inr (Or.inl rfl))⟩
    | true => exact ⟨⟨by decide, rfl⟩, '-', _, rfl, Or.inl rfl⟩
  | finite negative mantissa exponent narrow =>
    have body : Magnitude (if mantissa = 0 then ['0', '.', '0']
        else (Decimal.shortest mantissa exponent narrow).write) := by
      split_ifs
      · exact ⟨⟨by decide, rfl⟩, '0', _, rfl, by decide⟩
      · exact magnitude_write fun c member => isDigit_of_mem_shortest member
    simp only [Decimal.Binary.write, String.toList_ofList]
    cases negative with
    | false => exact body.numeral
    | true => exact body.minus

/-! ## Dates -/

/-- A character of a written date. -/
def isDateChar (c : Char) : Bool :=
  c.isDigit || ['-', ':', '.', '+', 'T'].contains c

/-- Only characters of written dates are in the text. -/
def IsDated (text : String) : Prop :=
  ∀ c ∈ text.toList, isDateChar c = true

theorem isDated_empty : IsDated "" := by
  intro c member
  cases member

theorem isDated_mark {mark : String} {c : Char} (single : mark.toList = [c])
    (dated : isDateChar c = true) : IsDated mark := by
  intro other member
  rw [single, List.mem_singleton] at member
  rwa [member]

theorem IsDated.append {front back : String} (first : IsDated front) (second : IsDated back) :
    IsDated (front ++ back) := by
  intro c member
  rw [String.toList_append, List.mem_append] at member
  exact member.elim (first c) (second c)

theorem isDated_padded (count n : Nat) : IsDated (Text.padded count n) :=
  fun _ member => Bool.or_eq_true_iff.mpr (Or.inl (isDigit_of_mem_padded member))

theorem isDated_date (date : Calendar.Date) : IsDated date.write := by
  have mark : IsDated "-" := isDated_mark rfl rfl
  have year := isDated_padded 4 date.year
  have month := (year.append mark).append (isDated_padded 2 date.month)
  exact (month.append mark).append (isDated_padded 2 date.day)

theorem isDated_fraction (microsecond : Nat) :
    IsDated (Calendar.DateTime.writeFraction microsecond) := by
  unfold Calendar.DateTime.writeFraction
  have mark : IsDated "." := isDated_mark rfl rfl
  split_ifs
  · exact isDated_empty
  · exact mark.append (isDated_padded 6 microsecond)

theorem isDated_distance (distance : Int) : IsDated (Calendar.DateTime.writeDistance distance) := by
  have mark : IsDated ":" := isDated_mark rfl rfl
  have sign : IsDated (if distance < 0 then "-" else "+") := by
    split_ifs <;> exact isDated_mark rfl rfl
  have hours := sign.append (isDated_padded 2 (distance.natAbs / 1000000 / 3600))
  refine ((hours.append mark).append (isDated_padded 2 _)).append ?_
  split_ifs
  · exact isDated_empty
  · exact (mark.append (isDated_padded 2 _)).append (isDated_fraction _)

theorem isDated_clock (time : Calendar.DateTime) : IsDated time.writeClock := by
  have mark : IsDated ":" := isDated_mark rfl rfl
  have minutes := ((isDated_padded 2 time.hour).append mark).append (isDated_padded 2 time.minute)
  have seconds := (minutes.append mark).append (isDated_padded 2 time.second)
  exact seconds.append (isDated_fraction time.microsecond)

theorem isDated_dateTime (time : Calendar.DateTime) : IsDated time.write := by
  have mark : IsDated "T" := isDated_mark rfl rfl
  refine (((isDated_date time.date).append mark).append (isDated_clock time)).append ?_
  split
  · exact isDated_empty
  · exact isDated_distance _

/-- A written date between quotes is the literal of what was written. -/
theorem spell_quoted_date {cs : List Char} (dated : ∀ c ∈ cs, isDateChar c = true) :
    spell [.quoted '\'' cs] = '\'' :: (cs ++ ['\'']) := by
  have unmarked : '\'' ∉ cs := fun member => absurd (dated _ member) (by decide)
  rw [spell_quoted, enclosed, doubled_eq_self unmarked]

end Sql
end PolicyStudio
