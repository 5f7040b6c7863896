import GridQuery.Calendar.DateText

/-!
# Query Fragments

What a query asks of one column, as a formula over tests. Each test compares the column with one
operand, matches it with a word, looks it up in a list of options, or asks whether it is null.

The text of a formula shows its structure without more parentheses than it needs: the parts of a
conjunction stand side by side, and a disjunction is put in parentheses, so that it may be part of
a conjunction. Text and dates stand between single quotes, and a single quote in them is doubled.

## Main definitions

* `Operand`, `Test`, `Fragment`: The formulas.
* `Fragment.render`: The text of a formula on a column.
* `Sql.quoted`: A text between single quotes.
-/

namespace GridQuery

namespace Sql

/-- The text with every single quote doubled. -/
def doubled : List Char → List Char
  | [] => []
  | c :: cs => if c = '\'' then '\'' :: '\'' :: doubled cs else c :: doubled cs

/-- The text between single quotes. -/
def quoted (cs : List Char) : List Char :=
  '\'' :: doubled cs ++ ['\'']

end Sql

/-- How a column is compared with an operand; that two ids are not the same is written differently
from that two values are not equal. -/
inductive Relation
  | equal | notEqual | notSame | greater | greaterOrEqual | less | lessOrEqual
  deriving DecidableEq, Repr

/-- What a column is compared with. A numeral stands as it is written. -/
inductive Operand
  | text (value : String)
  | numeral (text : String)
  | truth (value : Bool)
  | day (date : Date)
  deriving DecidableEq

/-- How a column relates to a list of options. -/
inductive Membership
  | anyOf | noneOf | hasAllOf | hasNoneOf | exactly
  deriving DecidableEq, Repr

/-- What is asked of a column by itself. -/
inductive Test
  | compare (relation : Relation) (operand : Operand)
  | contains (word : String)
  | lacks (word : String)
  | among (membership : Membership) (options : List String)
  | isNull
  | isNotNull
  deriving DecidableEq

/-- A formula over tests of one column. -/
inductive Fragment
  | test (test : Test)
  | both (left right : Fragment)
  | either (left right : Fragment)
  deriving DecidableEq

/-- The symbol of a relation. -/
def Relation.symbol : Relation → String
  | .equal => "="
  | .notEqual => "<>"
  | .notSame => "!="
  | .greater => ">"
  | .greaterOrEqual => ">="
  | .less => "<"
  | .lessOrEqual => "<="

/-- The text of an operand. -/
def Operand.render : Operand → List Char
  | .text s => Sql.quoted s.toList
  | .numeral digits => digits.toList
  | .truth b => (if b then "True" else "False").toList
  | .day d => Sql.quoted d.text

/-- The words of a membership. -/
def Membership.words : Membership → String
  | .anyOf => "in"
  | .noneOf => "not in"
  | .hasAllOf => "has all of"
  | .hasNoneOf => "has none of"
  | .exactly => "is exactly"

/-- A word that stands for any text that contains it. -/
def Sql.wildcard (word : String) : List Char :=
  quoted ('%' :: word.toList ++ ['%'])

/-- What follows the column in the text of a test. -/
def Test.render : Test → List Char
  | .compare relation operand => relation.symbol.toList ++ ' ' :: operand.render
  | .contains word => "like ".toList ++ Sql.wildcard word
  | .lacks word => "not like ".toList ++ Sql.wildcard word
  | .among membership options =>
    membership.words.toList ++ " (".toList ++
      [',', ' '].intercalate (options.map fun o => Sql.quoted o.toList) ++ [')']
  | .isNull => "is null".toList
  | .isNotNull => "is not null".toList

/-- The text of a formula on a column. -/
def Fragment.render (column : String) : Fragment → List Char
  | .test t => column.toList ++ ' ' :: t.render
  | .both left right => left.render column ++ " and ".toList ++ right.render column
  | .either left right =>
    '(' :: left.render column ++ " or ".toList ++ right.render column ++ [')']

/-- All of the formulas, of which there is at least the first. -/
def Fragment.conj : Fragment → List Fragment → Fragment
  | first, [] => first
  | first, second :: rest => .both first (conj second rest)

end GridQuery
