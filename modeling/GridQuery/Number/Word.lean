/-!
# Words

The sizes of the words that bound whole numbers in the texts the library reads.

## Main definitions

* `Word.size32`, `Word.size64`: The number of values of a word.
* `Word.half64`: Where the values of a signed word end.
-/

namespace GridQuery

namespace Word

/-- The number of values of a word of 32 bits. -/
def size32 : Nat := 0x100000000

/-- The number of values of a word of 64 bits. -/
def size64 : Nat := 0x10000000000000000

/-- The values of a signed word of 64 bits are below this bound, and not below its negative. -/
def half64 : Nat := 0x8000000000000000

/-- A signed word of 64 bits holds the number. -/
def fitsSigned (n : Int) : Bool :=
  -(half64 : Int) ≤ n && n < half64

end Word

end GridQuery
