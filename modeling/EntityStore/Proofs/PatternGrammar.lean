import Mathlib.Data.List.Forall2
import Mathlib.Data.List.Infix
import EntityStore.Query.Like

/-!
# Texts that are like a pattern

A written pattern spells its elements from left to right: `%` and `_` are wildcards, a
backslash makes the next character stand for itself, a backslash with nothing behind it
stands for itself, and so does every other character (`Pattern.Spells`).  Whatever is
written spells one pattern and no other.

A text is like a pattern when it can be cut into one piece for each element, in order,
such that each element takes its piece (`Pattern.Cuts`).  The matcher never cuts a text;
it finds the answers for all suffixes of the text at once, and goes through the pattern
from its end.  Each of its passes keeps that the answers are right for what it has seen
of the pattern, so they are right for all of it (`Pattern.accepts_iff`).

The patterns that are decided without being read have no element but characters that
stand for themselves and a run at either end.  For those, cutting is the search for a
prefix, a suffix or a part, which is the direct answer (`Like.directly?_iff`).
-/

set_option autoImplicit false

namespace EntityStore

/-! ## Elements and their pieces -/

/-- Whether an element takes a piece of a text, when `Alike` says which characters are as good as
a given one. -/
inductive PatternElement.Takes (Alike : Char → Char → Prop) :
    PatternElement → List Char → Prop where
  | anyRun (piece : List Char) : Takes Alike .anyRun piece
  | anyOne (character : Char) : Takes Alike .anyOne [character]
  | literal {wanted character : Char} (alike : Alike wanted character) :
      Takes Alike (.literal wanted) [character]

namespace Pattern

/-- What a written form spells. -/
inductive Spells : List Char → Pattern → Prop where
  | nothing : Spells [] []
  | anyRun {written : List Char} {pattern : Pattern} :
      Spells written pattern → Spells ('%' :: written) (.anyRun :: pattern)
  | anyOne {written : List Char} {pattern : Pattern} :
      Spells written pattern → Spells ('_' :: written) (.anyOne :: pattern)
  | escaped (character : Char) {written : List Char} {pattern : Pattern} :
      Spells written pattern →
        Spells ('\\' :: character :: written) (.literal character :: pattern)
  | lastBackslash : Spells ['\\'] [.literal '\\']
  | itself {character : Char} {written : List Char} {pattern : Pattern}
      (plain : character ≠ '%' ∧ character ≠ '_' ∧ character ≠ '\\') :
      Spells written pattern → Spells (character :: written) (.literal character :: pattern)

/-- Whether a text can be cut into pieces that the elements of a pattern take, one each and in
order. -/
def Cuts (Alike : Char → Char → Prop) (pattern : Pattern) (text : List Char) : Prop :=
  ∃ pieces : List (List Char),
    List.Forall₂ (PatternElement.Takes Alike) pattern pieces ∧ pieces.flatten = text

/-! ## Reading a written form -/

theorem ofChars_cons {character : Char} {written : List Char}
    (plain : character ≠ '%' ∧ character ≠ '_' ∧ character ≠ '\\') :
    ofChars (character :: written) = .literal character :: ofChars written := by
  obtain ⟨noRun, noOne, noEscape⟩ := plain
  rw [ofChars]
  · exact noRun
  · exact noOne
  · rintro rfl
    exact absurd rfl noEscape
  · rintro _ _ rfl
    exact absurd rfl noEscape

/-- Characters other than the wildcards and the backslash stand for themselves. -/
theorem ofChars_append {part : List Char} (rest : List Char)
    (plain : ∀ character ∈ part, character ≠ '%' ∧ character ≠ '_' ∧ character ≠ '\\') :
    ofChars (part ++ rest) = part.map .literal ++ ofChars rest := by
  induction part with
  | nil => rfl
  | cons first part ih =>
      obtain ⟨firstPlain, others⟩ := List.forall_mem_cons.mp plain
      rw [List.cons_append, ofChars_cons firstPlain, ih others]
      rfl

theorem spells_ofChars (written : List Char) : Spells written (ofChars written) := by
  fun_induction ofChars written with
  | case1 => exact .nothing
  | case2 rest ih => exact .anyRun ih
  | case3 rest ih => exact .anyOne ih
  | case4 => exact .lastBackslash
  | case5 escaped rest ih => exact .escaped escaped ih
  | case6 character rest noRun noOne noLast noEscape ih =>
      refine .itself ⟨noRun, noOne, ?_⟩ ih
      rintro rfl
      cases rest with
      | nil => exact noLast rfl rfl
      | cons escaped rest => exact noEscape escaped rest rfl rfl

/-- A written form spells one pattern, the one that is read. -/
theorem Spells.eq_ofChars {written : List Char} {pattern : Pattern}
    (spells : Spells written pattern) : pattern = ofChars written := by
  induction spells with
  | nothing | lastBackslash => rfl
  | anyRun _ ih | anyOne _ ih => rw [ih, ofChars]
  | escaped character _ ih => rw [ih, ofChars]
  | itself plain _ ih => rw [ih, ofChars_cons plain]

/-! ## Cutting a text -/

section Cutting

variable {Alike : Char → Char → Prop} {element : PatternElement} {pattern : Pattern}
  {text : List Char}

theorem cuts_nil_iff : Cuts Alike [] text ↔ text = [] := by
  constructor
  · rintro ⟨pieces, takes, rfl⟩
    cases takes
    rfl
  · rintro rfl
    exact ⟨[], .nil, rfl⟩

/-- The first element takes a piece at the start, and the rest is cut for the others. -/
theorem cuts_cons_iff :
    Cuts Alike (element :: pattern) text ↔
      ∃ piece later, element.Takes Alike piece ∧ Cuts Alike pattern later ∧
        piece ++ later = text := by
  constructor
  · rintro ⟨pieces, takes, rfl⟩
    obtain ⟨piece, others, first, rest, rfl⟩ := List.forall₂_cons_left_iff.mp takes
    exact ⟨piece, others.flatten, first, ⟨others, rest, rfl⟩, rfl⟩
  · rintro ⟨piece, later, first, ⟨others, rest, rfl⟩, rfl⟩
    exact ⟨piece :: others, .cons first rest, rfl⟩

theorem cuts_anyRun_iff :
    Cuts Alike (.anyRun :: pattern) text ↔ ∃ later, later <:+ text ∧ Cuts Alike pattern later := by
  rw [cuts_cons_iff]
  constructor
  · rintro ⟨piece, later, -, rest, rfl⟩
    exact ⟨later, List.suffix_append piece later, rest⟩
  · rintro ⟨later, ⟨piece, rfl⟩, rest⟩
    exact ⟨piece, later, .anyRun piece, rest, rfl⟩

/-- A run takes any text. -/
theorem cuts_singleton_anyRun : Cuts Alike [.anyRun] text :=
  cuts_anyRun_iff.mpr ⟨[], List.nil_suffix, cuts_nil_iff.mpr rfl⟩

theorem cuts_anyOne_iff :
    Cuts Alike (.anyOne :: pattern) text ↔
      ∃ character later, text = character :: later ∧ Cuts Alike pattern later := by
  rw [cuts_cons_iff]
  constructor
  · rintro ⟨piece, later, ⟨⟩, rest, rfl⟩
    exact ⟨_, later, rfl, rest⟩
  · rintro ⟨character, later, rfl, rest⟩
    exact ⟨[character], later, .anyOne character, rest, rfl⟩

theorem cuts_literal_iff {wanted : Char} :
    Cuts Alike (.literal wanted :: pattern) text ↔
      ∃ character later, text = character :: later ∧ Alike wanted character ∧
        Cuts Alike pattern later := by
  rw [cuts_cons_iff]
  constructor
  · rintro ⟨piece, later, takes, rest, rfl⟩
    cases takes with
    | literal alike => exact ⟨_, later, rfl, alike, rest⟩
  · rintro ⟨character, later, rfl, alike, rest⟩
    exact ⟨[character], later, .literal alike, rest, rfl⟩

/-- Characters that stand for themselves are the start of the text. -/
theorem cuts_literals_append_iff {part : List Char} :
    Cuts (· = ·) (part.map .literal ++ pattern) text ↔
      ∃ later, part ++ later = text ∧ Cuts (· = ·) pattern later := by
  induction part generalizing text with
  | nil => simp
  | cons first part ih =>
      rw [List.map_cons, List.cons_append, cuts_literal_iff]
      simp only [ih]
      constructor
      · rintro ⟨character, after, rfl, rfl, later, rfl, rest⟩
        exact ⟨later, rfl, rest⟩
      · rintro ⟨later, rfl, rest⟩
        exact ⟨first, part ++ later, rfl, rfl, later, rfl, rest⟩

end Cutting

/-! ## Matching all suffixes at once -/

/-- Whether answers for all suffixes of a text, longest first, say which of them have a property. -/
def Decides (Holds : List Char → Prop) (text : List Char) (answers : List Bool) : Prop :=
  List.Forall₂ (fun suffix answer => answer = true ↔ Holds suffix) text.tails answers

section Suffixes

variable {Holds : List Char → Prop} {text : List Char} {answers : List Bool}

theorem decides_cons_iff {character : Char} {answer : Bool} :
    Decides Holds (character :: text) (answer :: answers) ↔
      (answer = true ↔ Holds (character :: text)) ∧ Decides Holds text answers := by
  rw [Decides, List.tails, List.forall₂_cons]
  rfl

/-- There is an answer for the whole text, and it is the first one. -/
theorem Decides.headD (decides : Decides Holds text answers) :
    answers.headD false = true ↔ Holds text := by
  cases text with
  | nil =>
      cases decides with
      | cons first rest => exact first
  | cons character text =>
      cases decides with
      | cons first rest => exact first

theorem Decides.congr {Other : List Char → Prop} (decides : Decides Holds text answers)
    (same : ∀ suffix, Holds suffix ↔ Other suffix) : Decides Other text answers :=
  List.Forall₂.imp (fun suffix _ answers => answers.trans (same suffix)) decides

theorem decides_matchNothing (text : List Char) : Decides (· = []) text (matchNothing text) := by
  induction text with
  | nil => exact .cons (by simp) .nil
  | cons character text ih => exact decides_cons_iff.mpr ⟨by simp, ih⟩

theorem Decides.matchOne (decides : Decides Holds text answers) (accepts : Char → Bool) :
    Decides (fun suffix => ∃ character later, suffix = character :: later ∧
      accepts character = true ∧ Holds later) text (matchOne accepts text answers) := by
  induction text generalizing answers with
  | nil =>
      refine .cons ?_ .nil
      simp
  | cons character text ih =>
      cases decides with
      | cons first rest =>
          refine decides_cons_iff.mpr ⟨?_, ih rest⟩
          rw [Bool.and_eq_true, Decides.headD rest]
          simp

theorem Decides.matchRun (decides : Decides Holds text answers) :
    Decides (fun suffix => ∃ later, later <:+ suffix ∧ Holds later) text (matchRun answers) := by
  induction text generalizing answers with
  | nil =>
      cases decides with
      | cons first rest =>
          cases rest
          refine .cons ?_ .nil
          simpa [Pattern.matchRun] using first
  | cons character text ih =>
      cases decides with
      | cons first rest =>
          have later := ih rest
          refine decides_cons_iff.mpr ⟨?_, later⟩
          rw [Bool.or_eq_true, first, later.headD]
          simp only [List.suffix_cons_iff, or_and_right, exists_or, exists_eq_left]

/-- **The answers for a pattern are right**, since each element makes right ones of right ones. -/
theorem decides_suffixMatches {Alike : Char → Char → Prop} {same : Char → Char → Bool}
    (exact : ∀ wanted character, same wanted character = true ↔ Alike wanted character)
    (text : List Char) (pattern : Pattern) :
    Decides (Cuts Alike pattern) text (suffixMatches same text pattern) := by
  induction pattern with
  | nil => exact (decides_matchNothing text).congr fun _ => cuts_nil_iff.symm
  | cons element pattern ih =>
      cases element with
      | anyRun => exact ih.matchRun.congr fun _ => cuts_anyRun_iff.symm
      | anyOne =>
          refine (ih.matchOne fun _ => true).congr fun _ => ?_
          simp [cuts_anyOne_iff]
      | literal wanted =>
          refine (ih.matchOne (same wanted)).congr fun _ => ?_
          simp only [cuts_literal_iff, exact]

/-- **The matcher accepts the texts that can be cut**, and no other. -/
theorem accepts_iff {Alike : Char → Char → Prop} {same : Char → Char → Bool}
    (exact : ∀ wanted character, same wanted character = true ↔ Alike wanted character)
    {pattern : Pattern} {text : List Char} :
    pattern.accepts same text = true ↔ Cuts Alike pattern text :=
  (decides_suffixMatches exact text pattern).headD

end Suffixes

end Pattern

/-! ## Deciding without reading -/

namespace Like

theorem occursIn_iff {part text : List Char} : occursIn part text = true ↔ part <:+: text := by
  induction text with
  | nil => rw [occursIn, List.isEmpty_iff, List.infix_nil]
  | cons first rest ih =>
      rw [occursIn, Bool.or_eq_true, List.isPrefixOf_iff_prefix, ih, List.infix_cons_iff]

/-- A written form is its core with what was taken off either end. -/
theorem eq_of_core {written inner : List Char} {leading trailing : Bool}
    (split : core written = (leading, inner, trailing)) :
    written = (if leading then ['%'] else []) ++ (inner ++ if trailing then ['%'] else []) := by
  simp only [core, Prod.mk.injEq] at split
  obtain ⟨start, taken, finish⟩ := split
  rw [start, finish] at taken
  -- What is left when the last run is taken off begins like the written form.
  obtain ⟨front, sameHead, rest, ends⟩ : ∃ front : List Char, front.head? = written.head? ∧
      (if trailing then written.dropLast else written) = front ∧
      written = front ++ if trailing then ['%'] else [] := by
    cases trailing with
    | false => exact ⟨written, rfl, rfl, (List.append_nil written).symm⟩
    | true =>
        obtain ⟨long, last⟩ := Bool.and_eq_true_iff.mp finish
        obtain ⟨front, rfl⟩ := List.getLast?_eq_some_iff.mp (eq_of_beq last)
        refine ⟨front, ?_, List.dropLast_concat, rfl⟩
        cases front with
        | nil => simp at long
        | cons first front => rfl
  rw [rest] at taken
  have begins : front = (if leading then ['%'] else []) ++ inner := by
    cases leading with
    | false => exact taken
    | true =>
        obtain ⟨tail, rfl⟩ := List.head?_eq_some_iff.mp (sameHead.trans (eq_of_beq start))
        exact congrArg ('%' :: ·) taken
  rw [← List.append_assoc, ← begins]
  exact ends

theorem ofChars_of_core {written inner : List Char} {leading trailing : Bool}
    (split : core written = (leading, inner, trailing))
    (noOne : '_' ∉ written) (noEscape : '\\' ∉ written) (noRun : '%' ∉ inner) :
    Pattern.ofChars written = (if leading then [.anyRun] else []) ++
      (inner.map .literal ++ if trailing then [.anyRun] else []) := by
  have parts := eq_of_core split
  have innerIn : ∀ character ∈ inner, character ∈ written := by
    intro character member
    rw [parts]
    exact List.mem_append_right _ (List.mem_append_left _ member)
  have plain : ∀ character ∈ inner,
      character ≠ '%' ∧ character ≠ '_' ∧ character ≠ '\\' := by
    intro character member
    refine ⟨?_, ?_, ?_⟩ <;> rintro rfl
    · exact noRun member
    · exact noOne (innerIn _ member)
    · exact noEscape (innerIn _ member)
  have rest : Pattern.ofChars (inner ++ if trailing then ['%'] else []) =
      inner.map .literal ++ if trailing then [.anyRun] else [] := by
    rw [Pattern.ofChars_append _ plain]
    cases trailing <;> rfl
  rw [parts, ← rest]
  cases leading with
  | false => rfl
  | true => rfl

/-- **The direct answer is the right one**, for each written form that has one. -/
theorem directly?_iff {written text : List Char} {answer : Bool}
    (direct : directly? written text = some answer) :
    answer = true ↔ Pattern.Cuts (· = ·) (Pattern.ofChars written) text := by
  rw [directly?, Option.ite_none_left_eq_some, Bool.or_eq_true, not_or, List.contains_iff_mem,
    List.contains_iff_mem] at direct
  obtain ⟨⟨noOne, noEscape⟩, direct⟩ := direct
  obtain ⟨⟨leading, inner, trailing⟩, parts⟩ : ∃ parts, core written = parts := ⟨_, rfl⟩
  rw [parts] at direct
  dsimp only at direct
  rw [Option.ite_none_left_eq_some, List.contains_iff_mem] at direct
  obtain ⟨noRun, direct⟩ := direct
  rw [ofChars_of_core parts noOne noEscape noRun]
  cases leading with
  | false =>
      cases trailing with
      | false =>
          cases direct
          rw [if_neg Bool.false_ne_true, List.nil_append, Pattern.cuts_literals_append_iff,
            beq_iff_eq]
          simp [Pattern.cuts_nil_iff, eq_comm]
      | true =>
          cases direct
          rw [if_neg Bool.false_ne_true, List.nil_append, if_pos rfl,
            Pattern.cuts_literals_append_iff, List.isPrefixOf_iff_prefix]
          simp [Pattern.cuts_singleton_anyRun, List.IsPrefix]
  | true =>
      rw [if_pos rfl, List.singleton_append, Pattern.cuts_anyRun_iff]
      simp only [Pattern.cuts_literals_append_iff]
      cases trailing with
      | false =>
          -- A run alone has no core, and takes any text.
          by_cases alone : inner = []
          · subst alone
            cases direct
            simp [occursIn_iff, Pattern.cuts_nil_iff, List.nil_suffix]
          · have notEmpty : inner.isEmpty = false := by simpa using alone
            rw [notEmpty] at direct
            cases direct
            rw [List.isSuffixOf_iff_suffix]
            simp [Pattern.cuts_nil_iff]
      | true =>
          cases direct
          rw [occursIn_iff, if_pos rfl, List.infix_iff_prefix_suffix]
          simp only [Pattern.cuts_singleton_anyRun, and_true]
          exact exists_congr fun later => and_comm

/-! ## Texts like a pattern -/

/-- Whether a character of a text is as good as one of a pattern: the same one, or when case does
not matter one that folds to the same. -/
def Alike (caseSensitive : Bool) (wanted character : Char) : Prop :=
  if caseSensitive then wanted = character else Text.fold wanted = Text.fold character

instance (caseSensitive : Bool) (wanted character : Char) :
    Decidable (Alike caseSensitive wanted character) :=
  inferInstanceAs (Decidable (if caseSensitive = true then _ else _))

theorem sameFolded_iff (wanted character : Char) :
    Text.sameFolded wanted character = true ↔ Alike false wanted character := beq_iff_eq

theorem eq_iff_alike (wanted character : Char) :
    (wanted == character) = true ↔ Alike true wanted character := beq_iff_eq

/-- The direct answer is the one that the matcher gives as well. -/
theorem directly?_eq_accepts {written text : List Char} {answer : Bool}
    (direct : directly? written text = some answer) :
    answer = (Pattern.ofChars written).accepts (· == ·) text := by
  rw [Bool.eq_iff_iff, directly?_iff direct, Pattern.accepts_iff fun _ _ => beq_iff_eq]

theorem holds_iff_cuts (text written : String) (caseSensitive : Bool) :
    holds text written caseSensitive = true ↔
      Pattern.Cuts (Alike caseSensitive) (Pattern.ofChars written.toList) text.toList := by
  cases caseSensitive with
  | false => exact Pattern.accepts_iff sameFolded_iff
  | true =>
      rw [holds, if_pos rfl, ← Pattern.accepts_iff eq_iff_alike]
      cases direct : directly? written.toList text.toList with
      | none => rfl
      | some answer => rw [Option.getD_some, directly?_eq_accepts direct]

/-- **A text is like a written pattern just when it can be cut by the pattern.**  What is written
spells one pattern and no other, whatever characters it is made of; the text is like it exactly if
it can be cut into one piece for each element of this pattern, in order, that the element takes;
and where there is an answer without reading the pattern, it is the answer of the matcher. -/
theorem holds_iff_spells (text written : String) (caseSensitive : Bool) :
    ∃ pattern, Pattern.Spells written.toList pattern ∧
      (∀ other, Pattern.Spells written.toList other → other = pattern) ∧
      (holds text written caseSensitive = true ↔
        pattern.Cuts (Alike caseSensitive) text.toList) ∧
      ∀ answer, directly? written.toList text.toList = some answer →
        answer = pattern.accepts (· == ·) text.toList :=
  ⟨Pattern.ofChars written.toList, Pattern.spells_ofChars _, fun _ spells => spells.eq_ofChars,
    holds_iff_cuts text written caseSensitive, fun _ direct => directly?_eq_accepts direct⟩

/-- A text with a line break and a percent sign, which a pattern finds when case does not matter. -/
theorem discount_is_like :
    holds "Up to\n50% off" "u%\\% o_F" false = true ∧
      directly? "%50%".toList "Up to\n50% off".toList = some true ∧
      (Pattern.ofChars "%50%".toList).accepts (· == ·) "Up to\n50% off".toList = true := by
  obtain ⟨pattern, -, unique, like, -⟩ := holds_iff_spells "Up to\n50% off" "u%\\% o_F" false
  obtain ⟨part, -, partUnique, -, direct⟩ := holds_iff_spells "Up to\n50% off" "%50%" true
  refine ⟨like.mpr ?_, by decide, ?_⟩
  · have spelled : Pattern.ofChars "u%\\% o_F".toList = [.literal 'u', .anyRun, .literal '%',
        .literal ' ', .literal 'o', .anyOne, .literal 'F'] := by decide
    rw [← unique _ (Pattern.spells_ofChars _), spelled]
    refine ⟨[['U'], ['p', ' ', 't', 'o', '\n', '5', '0'], ['%'], [' '], ['o'], ['f'], ['f']],
      ?_, rfl⟩
    exact .cons (.literal (by decide)) (.cons (.anyRun _) (.cons (.literal (by decide))
      (.cons (.literal (by decide)) (.cons (.literal (by decide)) (.cons (.anyOne _)
        (.cons (.literal (by decide)) .nil))))))
  · rw [partUnique _ (Pattern.spells_ofChars _)]
    exact (direct true (by decide)).symm

end Like

end EntityStore
