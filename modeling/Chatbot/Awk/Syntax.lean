import Chatbot.Awk.Value

/-!
# The syntax of awk programs

A program is a list of rules and functions. A rule is a pattern with an action: `BEGIN` and
`END` rules run before and after the input, a rule with an expression runs for each record
where the expression is true, a range `p1, p2` for the records from one where `p1` holds to
the next where `p2` does, and a rule with no pattern for every record. A rule without an
action prints the record.

Expressions follow awk's precedence, loosest first: assignment, `?:`, `||`, `&&`, `in`, `~` and
`!~`, comparisons, concatenation, `+` and `-`, `*`, `/` and `%`, unary `!`, `-` and `+`, `^`,
`++` and `--`, `$`, and grouping.
-/

namespace Chatbot.Awk

open Chatbot.Shell

/-- An arithmetic operator. -/
inductive ArithOp where
  /-- `+`. -/
  | add
  /-- `-`. -/
  | sub
  /-- `*`. -/
  | mul
  /-- `/`. -/
  | div
  /-- `%`. -/
  | mod
  /-- `^`. -/
  | pow
  deriving DecidableEq, Repr

/-- A comparison. -/
inductive CompareOp where
  /-- `<`. -/
  | lt
  /-- `<=`. -/
  | le
  /-- `!=`. -/
  | ne
  /-- `==`. -/
  | eq
  /-- `>`. -/
  | gt
  /-- `>=`. -/
  | ge
  deriving DecidableEq, Repr

/-- Where `getline` reads. -/
inductive GetSource where
  /-- The next record of the input. -/
  | main
  /-- A file, `getline < file`. -/
  | file
  /-- A command's output, `command | getline`. -/
  | command
  deriving DecidableEq, Repr

/-- An expression. -/
inductive Expr where
  /-- A number. -/
  | num (d : Double)
  /-- A string. -/
  | str (s : Bytes)
  /-- A regular expression; alone, it matches the record. -/
  | regex (r : Bytes)
  /-- A variable. -/
  | var (name : String)
  /-- A field, `$e`. -/
  | field (e : Expr)
  /-- An element of an array, its subscripts joined by `SUBSEP`. -/
  | elem (name : String) (subs : List Expr)
  /-- An assignment, with the operator of `+=` and its kind. -/
  | assign (op : Option ArithOp) (target value : Expr)
  /-- `c ? a : b`. -/
  | cond (c a b : Expr)
  /-- `a && b`. -/
  | and (a b : Expr)
  /-- `a || b`. -/
  | or (a b : Expr)
  /-- `!a`. -/
  | not (a : Expr)
  /-- `-a`. -/
  | neg (a : Expr)
  /-- `+a`. -/
  | pos (a : Expr)
  /-- An arithmetic operation. -/
  | arith (op : ArithOp) (a b : Expr)
  /-- A comparison. -/
  | compare (op : CompareOp) (a b : Expr)
  /-- Two values written side by side: their texts joined. -/
  | concat (a b : Expr)
  /-- `a ~ re`, or `a !~ re` when `negated`. -/
  | matches (negated : Bool) (a re : Expr)
  /-- `(subs) in name`. -/
  | member (subs : List Expr) (name : String)
  /-- `++x`, `--x` (`pre`), `x++`, `x--`. -/
  | step (pre up : Bool) (target : Expr)
  /-- A call of a function of the program. -/
  | call (name : String) (args : List Expr)
  /-- A call of a function of awk. -/
  | builtin (name : String) (args : List Expr)
  /-- `getline`, into a variable or the record, from a source. -/
  | getline (source : GetSource) (target : Option Expr) (from_ : Option Expr)
  /-- An expression in parentheses. -/
  | group (e : Expr)
  deriving Repr, Inhabited

/-- Whether an expression can be assigned. -/
def Expr.isLvalue : Expr → Bool
  | .var _ | .field _ | .elem _ _ => true
  | _ => false

/-- Where `print` and `printf` write. -/
inductive Redirect where
  /-- `> file`: the file emptied when first written. -/
  | write
  /-- `>> file`. -/
  | append
  /-- `| command`. -/
  | pipe
  deriving DecidableEq, Repr

/-- A statement. -/
inductive Stmt where
  /-- An expression for its effect. -/
  | expr (e : Expr)
  /-- `print`, perhaps to a file. -/
  | print (args : List Expr) (dest : Option (Redirect × Expr))
  /-- `printf`, perhaps to a file. -/
  | printf (args : List Expr) (dest : Option (Redirect × Expr))
  /-- `if`, with its `else`. -/
  | ifElse (c : Expr) (t : Stmt) (e : Option Stmt)
  /-- `while`. -/
  | whileLoop (c : Expr) (body : Stmt)
  /-- `do … while`. -/
  | doLoop (body : Stmt) (c : Expr)
  /-- `for (init; cond; step)`. -/
  | forLoop (init c step : Option Expr) (body : Stmt)
  /-- `for (var in array)`. -/
  | forIn (var : String) (array : String) (body : Stmt)
  /-- `{ … }`. -/
  | block (body : List Stmt)
  /-- `next`. -/
  | next
  /-- `nextfile`. -/
  | nextFile
  /-- `exit`, with a status. -/
  | exit (e : Option Expr)
  /-- `return`, with a value. -/
  | ret (e : Option Expr)
  /-- `break`. -/
  | brk
  /-- `continue`. -/
  | cont
  /-- `delete a[subs]`, or all of `a`. -/
  | delete (name : String) (subs : Option (List Expr))
  deriving Repr, Inhabited

/-- The pattern of a rule. -/
inductive Pattern where
  /-- Every record. -/
  | always
  /-- Before the input. -/
  | begin
  /-- After the input. -/
  | finish
  /-- The records where an expression is true. -/
  | test (e : Expr)
  /-- The ranges of records from one where the first holds to one where the second does. -/
  | range (a b : Expr)
  deriving Repr, Inhabited

/-- A rule: a pattern and an action, `none` to print the record. -/
structure Rule where
  /-- When it runs. -/
  pattern : Pattern
  /-- What it does. -/
  action : Option Stmt
  deriving Repr, Inhabited

/-- A function of the program. -/
structure Function where
  /-- Its name. -/
  name : String
  /-- Its parameters. -/
  params : List String
  /-- Its body. -/
  body : Stmt
  deriving Repr, Inhabited

/-- A program. -/
structure Program where
  /-- The rules, in order. -/
  rules : List Rule
  /-- The functions. -/
  functions : List Function
  deriving Repr, Inhabited

end Chatbot.Awk
