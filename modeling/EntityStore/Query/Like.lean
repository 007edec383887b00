import EntityStore.Text.CaseFold

/-!
# Patterns

A pattern is a list of elements: any run of characters, any one character, or one
given character.  A text matches when it can be cut into consecutive pieces, one
for each element in order.  `Pattern.ofChars` reads the written form, in which `%`
and `_` are the two wildcards and a backslash takes the next character for itself.

Matching works on all suffixes of a text at once, from the last element of the
pattern to the first, so its cost is the product of the two lengths however many
wildcards there are.  A pattern that compares characters exactly and has at most a
wildcard run at either end is decided directly, without being read at all.
-/

set_option autoImplicit false

namespace EntityStore

/-- One element of a pattern. -/
inductive PatternElement where
  | anyRun
  | anyOne
  | literal (character : Char)
  deriving DecidableEq, Repr

/-- A pattern. -/
abbrev Pattern := List PatternElement

namespace Pattern

/-- The pattern of a written form. -/
def ofChars : List Char → Pattern
  | [] => []
  | '%' :: rest => .anyRun :: ofChars rest
  | '_' :: rest => .anyOne :: ofChars rest
  | ['\\'] => [.literal '\\']
  | '\\' :: escaped :: rest => .literal escaped :: ofChars rest
  | character :: rest => .literal character :: ofChars rest

/-! ## Matching -/

/-- For every suffix of a text, longest first, whether only the empty one matches: the answers for
the empty pattern. -/
def matchNothing : List Char → List Bool
  | [] => [true]
  | _ :: rest => false :: matchNothing rest

/-- From the answers for a pattern those for the pattern with one more character in front. -/
def matchOne (accepts : Char → Bool) : List Char → List Bool → List Bool
  | character :: text, _ :: answers =>
      (accepts character && answers.headD false) :: matchOne accepts text answers
  | _, _ => [false]

/-- From the answers for a pattern those for the pattern with a run of characters in front: a
suffix matches when it or a shorter one did. -/
def matchRun : List Bool → List Bool
  | [] => []
  | answer :: answers =>
      let rest := matchRun answers
      (answer || rest.headD false) :: rest

/-- For every suffix of a text, longest first, whether it matches. -/
def suffixMatches (same : Char → Char → Bool) (text : List Char) : Pattern → List Bool
  | [] => matchNothing text
  | .anyRun :: rest => matchRun (suffixMatches same text rest)
  | .anyOne :: rest => matchOne (fun _ => true) text (suffixMatches same text rest)
  | .literal wanted :: rest => matchOne (same wanted) text (suffixMatches same text rest)

/-- Whether a whole text matches, with characters compared by `same`. -/
def accepts (pattern : Pattern) (same : Char → Char → Bool) (text : List Char) : Bool :=
  (suffixMatches same text pattern).headD false

end Pattern

namespace Like

/-- Whether a text occurs in another without a gap. -/
def occursIn (part : List Char) : List Char → Bool
  | [] => part.isEmpty
  | first :: rest => part.isPrefixOf (first :: rest) || occursIn part rest

/-- The written form without the wildcard runs at its ends, and whether there was one at the
start and one at the end.  A form of one character has a start only. -/
def core (written : List Char) : Bool × List Char × Bool :=
  let leading := written.head? == some '%'
  let trailing := decide (1 < written.length) && written.getLast? == some '%'
  let inner := if trailing then written.dropLast else written
  (leading, if leading then inner.drop 1 else inner, trailing)

/-- The answer for a written form without wildcards but a run at either end; `none` for every
other form. -/
def directly? (written text : List Char) : Option Bool :=
  if written.contains '_' || written.contains '\\' then none
  else
    match core written with
    | (leading, inner, trailing) =>
        if inner.contains '%' then none
        else if leading && (trailing || inner.isEmpty) then some (occursIn inner text)
        else if leading then some (inner.isSuffixOf text)
        else if trailing then some (inner.isPrefixOf text)
        else some (text == inner)

/-- Whether a text is like a written pattern, with characters compared exactly or by case
folding. -/
def holds (text written : String) (caseSensitive : Bool) : Bool :=
  if caseSensitive then
    (directly? written.toList text.toList).getD
      ((Pattern.ofChars written.toList).accepts (· == ·) text.toList)
  else (Pattern.ofChars written.toList).accepts Text.sameFolded text.toList

end Like

end EntityStore
