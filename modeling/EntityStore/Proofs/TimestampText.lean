import EntityStore.Proofs.Calendar
import EntityStore.Proofs.Checks

/-!
# Reading the text of a moment

The text of a moment is read back as the moment.  It is read from left to right, and
each part of it ends where the next begins: a number is followed by a mark that is no
digit, or has as many digits as its reader takes.  So there is one lemma for each
reader, about a text that begins with what the reader looks for.

A second that runs past its end is written as second sixty and read as such.
-/

set_option autoImplicit false

namespace EntityStore

namespace Text

/-! ## Decimal digits -/

/-- Whether characters are the decimal digits of a number. -/
structure Denotes (digits : List Char) (number : Nat) : Prop where
  isDigit : ∀ character ∈ digits, character.isDigit
  natural? : natural? digits = some number

theorem digit?_of_isDigit {character : Char} (isDigit : character.isDigit) :
    digit? character = some (character.toNat - '0'.toNat) := by
  rw [Char.isDigit] at isDigit
  rw [digit?, if_pos (by simpa [Char.le_def] using isDigit)]
  rfl

theorem isBlank_of_isDigit {character : Char} (isDigit : character.isDigit) :
    isBlank character = false := by
  have range : 48 ≤ character.toNat ∧ character.toNat ≤ 57 := Char.isDigit_iff_toNat.mp isDigit
  refine Bool.eq_false_iff.mpr fun blank => ?_
  simp only [isBlank, Bool.or_eq_true, Bool.and_eq_true, decide_eq_true_eq, beq_iff_eq] at blank
  omega

theorem natural?_eq_ofDigitChars {digits : List Char} (some_ : digits ≠ [])
    (isDigit : ∀ character ∈ digits, character.isDigit) :
    natural? digits = some (Nat.ofDigitChars 10 digits 0) := by
  have folds (start : Nat) :
      digits.foldlM (fun total character => (digit? character).map (10 * total + ·)) start =
        some (Nat.ofDigitChars 10 digits start) := by
    clear some_
    induction digits generalizing start with
    | nil => rfl
    | cons first rest ih =>
        obtain ⟨firstDigit, others⟩ := List.forall_mem_cons.mp isDigit
        rw [List.foldlM_cons, digit?_of_isDigit firstDigit]
        exact ih others _
  rw [natural?, if_neg (by simpa using some_)]
  exact folds 0

theorem toList_padded (width number : Nat) :
    (padded width number).toList =
      List.replicate (width - (Nat.toDigits 10 number).length) '0' ++ Nat.toDigits 10 number := by
  simp only [padded, Nat.toString_eq_ofList_toDigits, String.toList_append, String.toList_ofList,
    String.length_ofList]

theorem denotes_padded (width number : Nat) : Denotes (padded width number).toList number := by
  have isDigit : ∀ character ∈ (padded width number).toList, character.isDigit := by
    rw [toList_padded]
    refine List.forall_mem_append.mpr ⟨?_, fun character member => ?_⟩
    · intro character member
      rw [List.eq_of_mem_replicate member]
      rfl
    · exact Nat.isDigit_of_mem_toDigits (by decide) (by decide) member
  refine ⟨isDigit, ?_⟩
  have written : (padded width number).toList ≠ [] := by
    rw [toList_padded]
    have digits := @Nat.length_toDigits_pos 10 number
    simp [List.ne_nil_of_length_pos digits]
  rw [natural?_eq_ofDigitChars written isDigit, toList_padded, Nat.ofDigitChars_append,
    Nat.ofDigitChars_replicate_zero, Nat.mul_zero,
    Nat.ofDigitChars_toDigits (by decide) (by decide)]

theorem length_padded {width number : Nat} (wide : 0 < width) (below : number < 10 ^ width) :
    (padded width number).toList.length = width := by
  have fits := (Nat.length_toDigits_le_iff (by decide : 1 < 10) wide).mpr below
  rw [toList_padded, List.length_append, List.length_replicate, Nat.sub_add_cancel fits]

theorem length_padded_le {width bound number : Nat} (narrow : width ≤ bound) (wide : 0 < bound)
    (below : number < 10 ^ bound) : (padded width number).toList.length ≤ bound := by
  have fits := (Nat.length_toDigits_le_iff (by decide : 1 < 10) wide).mpr below
  rw [toList_padded, List.length_append, List.length_replicate]
  omega

theorem Denotes.ne_nil {digits : List Char} {number : Nat} (denotes : Denotes digits number) :
    digits ≠ [] := by
  rintro rfl
  exact nomatch denotes.natural?

/-- A text that does not begin with a blank is left as it is. -/
theorem trimStart_cons {first : Char} {rest : List Char} (unblank : isBlank first = false) :
    trimStart (first :: rest) = first :: rest := by
  rw [trimStart, List.dropWhile_cons, unblank]
  rfl

theorem Denotes.trimStart {digits : List Char} {number : Nat} (denotes : Denotes digits number)
    (rest : List Char) : trimStart (digits ++ rest) = digits ++ rest := by
  obtain ⟨first, others, rfl⟩ := List.exists_cons_of_ne_nil denotes.ne_nil
  exact trimStart_cons (isBlank_of_isDigit (denotes.isDigit first List.mem_cons_self))

end Text

namespace Timestamp

open Text (Denotes padded)

/-! ## Readers of numbers -/

/-- Whether the digits at the start of a text end before it. -/
def Stops (rest : List Char) : Prop := ∀ first ∈ rest.head?, first.isDigit = false

theorem Stops.cons {first : Char} (noDigit : first.isDigit = false) (rest : List Char) :
    Stops (first :: rest) := by
  intro other member
  cases member
  exact noDigit

theorem Stops.take {rest : List Char} (stops : Stops rest) (count : Nat) :
    Stops (rest.take count) := by
  intro first member
  rw [List.head?_take] at member
  split at member
  · cases member
  · exact stops first member

theorem takeWhile_digits {digits rest : List Char} {number : Nat}
    (denotes : Denotes digits number) (stops : Stops rest) :
    (digits ++ rest).takeWhile Char.isDigit = digits := by
  rw [List.takeWhile_append_of_pos denotes.isDigit]
  cases rest with
  | nil => exact List.append_nil digits
  | cons first rest =>
      rw [List.takeWhile_cons, stops first rfl]
      exact List.append_nil digits

theorem readNumber_append {width number : Nat} {digits rest : List Char}
    (denotes : Denotes digits number) (fits : digits.length ≤ width)
    (ends : digits.length = width ∨ Stops rest) :
    readNumber width (digits ++ rest) = some (number, rest) := by
  have taken : ((digits ++ rest).take width).takeWhile Char.isDigit = digits := by
    rw [List.take_append, List.take_of_length_le fits]
    refine takeWhile_digits denotes ?_
    rcases ends with full | stops
    · rw [full, Nat.sub_self]
      exact nofun
    · exact stops.take _
  rw [readNumber, taken, denotes.natural?, List.drop_left]
  rfl

theorem readPair_append {number : Nat} (below : number < 100) (rest : List Char) :
    readPair ((padded 2 number).toList ++ rest) = some (number, rest) := by
  have denotes := Text.denotes_padded 2 number
  have length : (padded 2 number).toList.length = 2 := Text.length_padded (by decide) below
  rw [readPair, denotes.trimStart]
  exact readNumber_append denotes length.le (.inl length)

/-- A year without a sign has four digits, and the digits of any other end before the mark. -/
theorem readYear_append (year : Int) {rest : List Char} (stops : Stops rest) :
    readYear ((yearText year).toList ++ rest) = some (year, rest) := by
  rw [yearText]
  split
  · next short =>
      have denotes := Text.denotes_padded 4 year.toNat
      have length : (padded 4 year.toNat).toList.length = 4 :=
        Text.length_padded (by decide) (by omega)
      have read : readNumber 4 ((padded 4 year.toNat).toList ++ rest) = some (year.toNat, rest) :=
        readNumber_append denotes length.le (.inl length)
      obtain ⟨first, others, written⟩ := List.exists_cons_of_ne_nil denotes.ne_nil
      have isDigit := denotes.isDigit first (written ▸ List.mem_cons_self)
      rw [written] at read ⊢
      rw [readYear.eq_def, List.cons_append]
      split
      · next same =>
          cases same
          exact absurd isDigit (by decide)
      · next same =>
          cases same
          exact absurd isDigit (by decide)
      · rw [← List.cons_append, read, Option.map_some]
        exact congrArg some (Prod.ext (Int.toNat_of_nonneg short.1) rfl)
  · have read : readNumber ((padded 4 year.natAbs).toList ++ rest).length
        ((padded 4 year.natAbs).toList ++ rest) = some (year.natAbs, rest) :=
      readNumber_append (Text.denotes_padded 4 year.natAbs)
        (by rw [List.length_append]; exact Nat.le_add_right _ _) (.inr stops)
    rw [String.toList_append, List.append_assoc]
    split
    · next negative =>
        have sign : "-".toList = ['-'] := by simp
        rw [sign, List.singleton_append, readYear, read, Option.map_some]
        exact congrArg some (Prod.ext (by dsimp only; omega) rfl)
    · next positive =>
        have sign : "+".toList = ['+'] := by simp
        rw [sign, List.singleton_append, readYear, read, Option.map_some]
        exact congrArg some (Prod.ext (by dsimp only; omega) rfl)

/-- The digits behind the point are read as nanoseconds. -/
theorem readFraction_padded {width digits : Nat} (wide : 0 < width) (narrow : width ≤ 9)
    (fits : digits < 10 ^ width) {rest : List Char} (stops : Stops rest) :
    readFraction (("." ++ padded width digits).toList ++ rest) =
      some (digits * 10 ^ (9 - width), rest) := by
  have denotes := Text.denotes_padded width digits
  have length := Text.length_padded wide fits
  have taken := takeWhile_digits denotes stops
  have kept : (padded width digits).toList.take 9 = (padded width digits).toList :=
    List.take_of_length_le (length.le.trans narrow)
  have point : ".".toList = ['.'] := by simp
  rw [String.toList_append, List.append_assoc, point, List.singleton_append, readFraction, taken,
    kept, denotes.natural?, List.drop_left, length]
  rfl

/-- A fraction is read as the nanoseconds that it was written for. -/
theorem readFraction_append {nanoseconds : Nat} (below : nanoseconds < 1000000000)
    {first : Char} {rest : List Char} (stops : first.isDigit = false) (noPoint : first ≠ '.') :
    readFraction ((fractionText nanoseconds).toList ++ first :: rest) =
      some (nanoseconds, first :: rest) := by
  have ends := Stops.cons stops rest
  rw [fractionText]
  split
  · next none =>
      have nothing : "".toList = [] := by simp
      rw [nothing, List.nil_append, none, readFraction.eq_def]
      split
      · next same =>
          cases same
          exact absurd rfl noPoint
      · rfl
  · split
    · rw [readFraction_padded (by decide) (by decide) (by omega) ends]
      exact congrArg some (Prod.ext (by dsimp only; omega) rfl)
    · split
      · rw [readFraction_padded (by decide) (by decide) (by omega) ends]
        exact congrArg some (Prod.ext (by dsimp only; omega) rfl)
      · rw [readFraction_padded (by decide) (by decide) (by omega) ends]
        exact congrArg some (Prod.ext (Nat.mul_one _) rfl)

/-! ## Readers of days and times -/

theorem readMark_cons (mark : Char) (rest : List Char) : readMark mark (mark :: rest) = some rest :=
  if_pos rfl

theorem trimStart_yearText (year : Int) (rest : List Char) :
    Text.trimStart ((yearText year).toList ++ rest) = (yearText year).toList ++ rest := by
  rw [yearText]
  split
  · exact (Text.denotes_padded 4 year.toNat).trimStart rest
  · rw [String.toList_append, List.append_assoc]
    split
    · have sign : "-".toList = ['-'] := by simp
      rw [sign]
      exact Text.trimStart_cons rfl
    · have sign : "+".toList = ['+'] := by simp
      rw [sign]
      exact Text.trimStart_cons rfl

theorem monthLength_le (year : Int) (month : Nat) : monthLength year month ≤ 31 := by
  rw [monthLength]
  split_ifs <;> decide

theorem readDay_append {day : Day} (proper : day.IsProper) (inRange : yearInRange day.year = true)
    (rest : List Char) :
    readDay ((yearText day.year).toList ++ '-' :: ((padded 2 day.month).toList ++
      '-' :: ((padded 2 day.day).toList ++ rest))) = some (day, rest) := by
  have stops (rest : List Char) : Stops ('-' :: rest) := Stops.cons rfl rest
  have monthBelow : day.month < 100 := by have := proper.month_le; omega
  have dayBelow : day.day < 100 := by
    have := proper.day_le.trans (monthLength_le day.year day.month)
    omega
  have dash (rest : List Char) : Text.trimStart ('-' :: rest) = '-' :: rest :=
    Text.trimStart_cons rfl
  have valid : (yearInRange day.year && 1 ≤ day.month && day.month ≤ 12 && 1 ≤ day.day &&
      day.day ≤ monthLength day.year day.month) = true := by
    simp [inRange, proper.month_pos, proper.month_le, proper.day_pos, proper.day_le]
  simp only [readDay, trimStart_yearText, readYear_append day.year (stops _), dash, readMark_cons,
    readPair_append monthBelow, readPair_append dayBelow, Option.bind_eq_bind, Option.bind_some]
  rw [if_pos valid]
  rfl

theorem readTime_append {hour minute second nanoseconds : Nat} (hourBelow : hour < 24)
    (minuteBelow : minute < 60) (secondBelow : second ≤ 60) (below : nanoseconds < 1000000000)
    {first : Char} {rest : List Char} (stops : first.isDigit = false) (noPoint : first ≠ '.') :
    readTime ((padded 2 hour).toList ++ ':' :: ((padded 2 minute).toList ++
        ':' :: ((padded 2 second).toList ++
          ((fractionText nanoseconds).toList ++ first :: rest)))) =
      some (if second = 60 then (hour * 3600 + minute * 60 + 59, nanoseconds + 1000000000)
        else (hour * 3600 + minute * 60 + second, nanoseconds), first :: rest) := by
  have colon (rest : List Char) : Text.trimStart (':' :: rest) = ':' :: rest :=
    Text.trimStart_cons rfl
  have valid : (hour < 24 && minute < 60 && second ≤ 60) = true := by
    simp [hourBelow, minuteBelow, secondBelow]
  simp only [readTime, readPair_append (show hour < 100 by omega), colon, readMark_cons,
    readPair_append (show minute < 100 by omega), readPair_append (show second < 100 by omega),
    readFraction_append below stops noPoint, Option.bind_eq_bind, Option.bind_some]
  rw [if_pos valid]
  split
  · rfl
  · rfl

/-! ## Whole moments -/

/-- Whether there is such a moment: it lies in a year that moments may lie in, and its nanoseconds
are those of a second, or of one that runs past its end at the end of a minute. -/
structure IsProper (moment : Timestamp) : Prop where
  year : yearInRange (Day.ofNumber (moment.seconds / 86400)).year = true
  nanoseconds : moment.nanoseconds < 1000000000 ∨
    moment.nanoseconds < 2000000000 ∧ moment.seconds % 60 = 59

/-- The parts of the text of a moment. -/
theorem toList_text (moment : Timestamp) :
    let day := Day.ofNumber (moment.seconds / 86400)
    let ofDay := (moment.seconds % 86400).toNat
    let runsOver := 1000000000 ≤ moment.nanoseconds
    let second := ofDay % 60 + (if runsOver then 1 else 0)
    let nanoseconds := if runsOver then moment.nanoseconds - 1000000000 else moment.nanoseconds
    moment.text.toList = (yearText day.year).toList ++ '-' :: ((padded 2 day.month).toList ++
      '-' :: ((padded 2 day.day).toList ++ 'T' :: ((padded 2 (ofDay / 3600)).toList ++
        ':' :: ((padded 2 (ofDay / 60 % 60)).toList ++ ':' :: ((padded 2 second).toList ++
          ((fractionText nanoseconds).toList ++ ['Z'])))))) := by
  have dash : "-".toList = ['-'] := by simp
  have colon : ":".toList = [':'] := by simp
  have timeMark : "T".toList = ['T'] := by simp
  have zone : "Z".toList = ['Z'] := by simp
  simp only [text, String.toList_append, dash, colon, timeMark, zone, List.append_assoc,
    List.cons_append, List.nil_append]

/-- The seconds and nanoseconds of the day come out of the parts again. -/
theorem ofDay_eq {moment : Timestamp} (proper : moment.IsProper) :
    let ofDay := (moment.seconds % 86400).toNat
    let runsOver := 1000000000 ≤ moment.nanoseconds
    let second := ofDay % 60 + (if runsOver then 1 else 0)
    let nanoseconds := if runsOver then moment.nanoseconds - 1000000000 else moment.nanoseconds
    second ≤ 60 ∧ nanoseconds < 1000000000 ∧
    (if second = 60 then (ofDay / 3600 * 3600 + ofDay / 60 % 60 * 60 + 59, nanoseconds + 1000000000)
      else (ofDay / 3600 * 3600 + ofDay / 60 % 60 * 60 + second, nanoseconds)) =
      (ofDay, moment.nanoseconds) := by
  intro ofDay runsOver second nanoseconds
  have split : ofDay / 3600 * 3600 + ofDay / 60 % 60 * 60 + ofDay % 60 = ofDay := by omega
  by_cases beyond : runsOver
  · have last : ofDay % 60 = 59 := by
      rcases proper.nanoseconds with short | ⟨-, last⟩
      · exact absurd beyond (Nat.not_le_of_lt short)
      · omega
    have below : moment.nanoseconds < 2000000000 := by
      rcases proper.nanoseconds with short | ⟨below, -⟩
      · exact short.trans (by decide)
      · exact below
    have sixty : second = 60 := by
      simp only [second, if_pos beyond, last]
    have behind : nanoseconds = moment.nanoseconds - 1000000000 := if_pos beyond
    rw [if_pos sixty, sixty, behind]
    refine ⟨le_rfl, by omega, Prod.ext (by dsimp only; omega) ?_⟩
    exact Nat.sub_add_cancel beyond
  · have same : second = ofDay % 60 := by
      simp only [second, if_neg beyond, Nat.add_zero]
    have whole : nanoseconds = moment.nanoseconds := if_neg beyond
    have below : ofDay % 60 < 60 := Nat.mod_lt ofDay (by decide)
    rw [same, whole, if_neg below.ne, split]
    exact ⟨below.le, Nat.lt_of_not_le beyond, rfl⟩

/-- **The text of a moment is read as the moment.** -/
theorem parse?_text {moment : Timestamp} (proper : moment.IsProper) :
    parse? moment.text = some moment := by
  obtain ⟨days, day⟩ := Day.number_ofNumber (moment.seconds / 86400)
  obtain ⟨secondBelow, below, ofDay⟩ := ofDay_eq proper
  have hour : (moment.seconds % 86400).toNat / 3600 < 24 := by omega
  have minute : (moment.seconds % 86400).toNat / 60 % 60 < 60 := Nat.mod_lt _ (by decide)
  rw [parse?, toList_text moment]
  simp only [readDay_append day proper.year, Option.bind_eq_bind, Option.bind_some, decide_true,
    Bool.true_or, if_true]
  rw [readTime_append hour minute secondBelow below rfl (by decide), ofDay]
  have zone : Text.trimStart ['Z'] = ['Z'] := Text.trimStart_cons rfl
  have universal : readOffset ['Z'] = some (0, []) := rfl
  have seconds : moment.seconds / 86400 * 86400 + ((moment.seconds % 86400).toNat : Int) - 0 =
      moment.seconds := by omega
  simp only [Option.bind_some, zone, universal, days, seconds]
  rw [if_neg (by decide), if_pos proper.year]
  rfl

/-! ## The length of the text -/

theorem length_yearText_le {year : Int} (inRange : yearInRange year = true) :
    (yearText year).toList.length ≤ 7 := by
  have bounds : -262143 ≤ year ∧ year ≤ 262142 := of_decide_eq_true inRange
  rw [yearText]
  split
  · exact Text.length_padded_le (by decide) (by decide) (by omega)
  · have digits : (padded 4 year.natAbs).toList.length ≤ 6 :=
      Text.length_padded_le (by decide) (by decide) (by omega)
    have sign : (if year < 0 then "-" else "+").toList.length = 1 := by
      split <;> simp
    rw [String.toList_append, List.length_append, sign]
    omega

theorem length_fractionText_le {nanoseconds : Nat} (below : nanoseconds < 1000000000) :
    (fractionText nanoseconds).toList.length ≤ 10 := by
  have digits {width number : Nat} (narrow : width ≤ 9) (fits : number < 10 ^ 9) :
      ("." ++ padded width number).toList.length ≤ 10 := by
    have length := Text.length_padded_le narrow (by decide) fits
    have point : ".".toList = ['.'] := by simp
    rw [String.toList_append, List.length_append, point, List.length_singleton]
    omega
  rw [fractionText]
  split
  · simp
  · split
    · exact digits (by decide) (by omega)
    · split
      · exact digits (by decide) (by omega)
      · exact digits (by decide) (by omega)

theorem length_text_le {moment : Timestamp} (proper : moment.IsProper) :
    moment.text.toList.length ≤ 33 := by
  obtain ⟨-, day⟩ := Day.number_ofNumber (moment.seconds / 86400)
  obtain ⟨secondBelow, below, -⟩ := ofDay_eq proper
  have pair {number bound : Nat} (small : number ≤ bound) (fits : bound < 100) :
      (padded 2 number).toList.length = 2 := Text.length_padded (by decide) (small.trans_lt fits)
  have year := length_yearText_le proper.year
  have month := pair day.month_le (by decide)
  have dayOfMonth := pair (day.day_le.trans (monthLength_le _ _)) (by decide)
  have hour : (padded 2 ((moment.seconds % 86400).toNat / 3600)).toList.length = 2 :=
    Text.length_padded (by decide) (by omega)
  have minute : (padded 2 ((moment.seconds % 86400).toNat / 60 % 60)).toList.length = 2 :=
    Text.length_padded (by decide) (by omega)
  have second := pair secondBelow (by decide)
  have fraction := length_fractionText_le below
  rw [toList_text moment]
  simp only [List.length_append, List.length_cons, List.length_nil, month, dayOfMonth, hour, minute,
    second]
  omega

end Timestamp

end EntityStore
