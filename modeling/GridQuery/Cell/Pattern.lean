import GridQuery.Text.Split

/-!
# Like Patterns

A pattern of a like comparison has one or two percent signs with a meaning. A sign at the end asks
for a start of the text, a sign at the start for an end of it, signs at both ends for a part of it,
and a sign inside for a start and an end, which may overlap. A text without a sign is no pattern.

Inside, the first sign ends the start and the last one begins the end; what stands between two inner
signs is not looked at. At the ends, only the outermost signs have a meaning.

## Main definitions

* `Pattern.matches?`: Whether a text matches a pattern, if it is one.
-/

namespace GridQuery

namespace Pattern

/-- The sign that stands for any text. -/
def sign : Char := '%'

/-- Whether a text matches a pattern, if it is one. -/
def matches? (text pattern : List Char) : Option Bool :=
  match Text.cut sign pattern with
  | none => none
  | some (start, rest) =>
    let leading := pattern.head? == some sign
    let trailing := pattern.getLast? == some sign && 1 < pattern.length
    some <| match leading, trailing with
      | false, true => pattern.dropLast.isPrefixOf text
      | true, false => (pattern.drop 1).isSuffixOf text
      | true, true => Text.occursIn (pattern.drop 1).dropLast text
      | false, false => start.isPrefixOf text && (Text.afterLast sign rest).isSuffixOf text

end Pattern

end GridQuery
