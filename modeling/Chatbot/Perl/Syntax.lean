import Chatbot.Perl.Value

/-!
# The syntax of perl programs

A program is a list of statements with the subroutines it defines and the blocks it runs at
its end. Expressions follow perl's precedence, loosest first: `or` and `xor`, `and`, `not`,
list operators, `,`, assignment, `?:`, `..`, `||` and `//`, `&&`, `|` and `^`, `&`,
equality, comparison, named unary operators, `<<` and `>>`, `+`, `-` and `.`, `*`, `/`, `%`
and `x`, `=~` and `!~`, unary `!`, `~`, `\` and `-`, `**`, `++` and `--`, `->`, and terms.

A variable is named with its sigil: `$x` a scalar, `@x` an array, `%x` a hash. An element
is taken from an *aggregate*, an expression that stands for an array or a hash: a variable
`@x` or `%x`, or the container a reference points to.

A string between double quotes is a list of parts: text, values put in, and the marks of
case (`\U`, `\L`, `\u`, `\l`, `\Q`, `\E`) that change the text after them.
-/

namespace Chatbot.Perl

open Chatbot.Shell

/-- A binary operator on values. -/
inductive BinOp where
  /-- `+`. -/
  | add
  /-- `-`. -/
  | sub
  /-- `*`. -/
  | mul
  /-- `/`. -/
  | div
  /-- `%`. -/
  | mod
  /-- `**`. -/
  | pow
  /-- `.`. -/
  | concat
  /-- `x` on a string. -/
  | repeat
  /-- `==`. -/
  | numEq
  /-- `!=`. -/
  | numNe
  /-- `<`. -/
  | numLt
  /-- `>`. -/
  | numGt
  /-- `<=`. -/
  | numLe
  /-- `>=`. -/
  | numGe
  /-- `<=>`. -/
  | numCmp
  /-- `eq`. -/
  | strEq
  /-- `ne`. -/
  | strNe
  /-- `lt`. -/
  | strLt
  /-- `gt`. -/
  | strGt
  /-- `le`. -/
  | strLe
  /-- `ge`. -/
  | strGe
  /-- `cmp`. -/
  | strCmp
  /-- `&`. -/
  | bitAnd
  /-- `|`. -/
  | bitOr
  /-- `^`. -/
  | bitXor
  /-- `<<`. -/
  | shiftLeft
  /-- `>>`. -/
  | shiftRight
  deriving DecidableEq, Repr

/-- An operator that decides by truth, evaluating its right side only when needed. -/
inductive LogicOp where
  /-- `&&` and `and`. -/
  | and
  /-- `||` and `or`. -/
  | or
  /-- `//`: the left side unless it is undefined. -/
  | definedOr
  /-- `xor`. -/
  | xor
  deriving DecidableEq, Repr

/-- How a variable is declared. -/
inductive Decl where
  /-- `my`: a new variable of the block. -/
  | my
  /-- `our`: the package variable. -/
  | our
  /-- `local`: the package variable, its value saved and given back when the block ends. -/
  | local
  deriving DecidableEq, Repr

/-- A mark of case in an interpolated string. -/
inductive CaseMark where
  /-- `\U`: upper case up to `\E`. -/
  | upper
  /-- `\L`: lower case up to `\E`. -/
  | lower
  /-- `\Q`: quote non-word bytes up to `\E`. -/
  | quote
  /-- `\F`: fold case up to `\E`. -/
  | fold
  /-- `\E`: end the last mark. -/
  | finish
  /-- `\u`: the next byte in upper case. -/
  | upperNext
  /-- `\l`: the next byte in lower case. -/
  | lowerNext
  deriving DecidableEq, Repr

/-- The kind of a loop control. -/
inductive LoopCtl where
  /-- `next`. -/
  | next
  /-- `last`. -/
  | last
  /-- `redo`. -/
  | redo
  deriving DecidableEq, Repr

/-- Which printing operator. -/
inductive PrintKind where
  /-- `print`. -/
  | print
  /-- `printf`. -/
  | printf
  /-- `say`. -/
  | say
  deriving DecidableEq, Repr

mutual

/-- An expression. -/
inductive Expr where
  /-- A constant. -/
  | lit (v : Scalar)
  /-- A string with values put in. -/
  | interp (parts : List Part)
  /-- A scalar variable, `$name`. -/
  | scalarVar (name : String)
  /-- An array variable, `@name`. -/
  | arrayVar (name : String)
  /-- A hash variable, `%name`. -/
  | hashVar (name : String)
  /-- The scalar a reference points to, `$$r`. -/
  | derefScalar (e : Expr)
  /-- The array a reference points to, `@$r`. -/
  | derefArray (e : Expr)
  /-- The hash a reference points to, `%$r`. -/
  | derefHash (e : Expr)
  /-- An element of an array aggregate. -/
  | elem (array index : Expr)
  /-- An element of a hash aggregate. -/
  | helem (hash key : Expr)
  /-- Elements of an array aggregate, `@a[…]`. -/
  | slice (array indices : Expr)
  /-- Elements of a hash aggregate, `@h{…}`. -/
  | hslice (hash keys : Expr)
  /-- Elements of a list, `(…)[…]`. -/
  | listSlice (list indices : Expr)
  /-- The last index of an array aggregate, `$#a`. -/
  | lastIndex (array : Expr)
  /-- A list, `(a, b, …)`. -/
  | list (items : List Expr)
  /-- A declaration of variables. -/
  | declare (kind : Decl) (vars : List Expr)
  /-- `target = value`. -/
  | assign (target value : Expr)
  /-- `target op= value`. -/
  | opAssign (op : BinOp) (target value : Expr)
  /-- `target ||= value`, `&&=`, `//=`. -/
  | logAssign (op : LogicOp) (target value : Expr)
  /-- A binary operation. -/
  | binary (op : BinOp) (a b : Expr)
  /-- A list repeated, `(…) x n`. -/
  | repeatList (list count : Expr)
  /-- A decision by truth. -/
  | logical (op : LogicOp) (a b : Expr)
  /-- `!a` and `not a`. -/
  | not (a : Expr)
  /-- `-a`. -/
  | neg (a : Expr)
  /-- `~a`. -/
  | bitNot (a : Expr)
  /-- `c ? a : b`. -/
  | cond (c a b : Expr)
  /-- `a .. b`: a list of values, or in scalar context a switch that remembers its state
  (numbered `id`). -/
  | range (id : Nat) (a b : Expr)
  /-- `++x`, `--x` (`pre`), `x++`, `x--`. -/
  | step (pre up : Bool) (target : Expr)
  /-- `\e`: references to what `e` names. -/
  | refOf (e : Expr)
  /-- `[…]`: a reference to a new array. -/
  | anonArray (items : List Expr)
  /-- `{…}`: a reference to a new hash. -/
  | anonHash (items : List Expr)
  /-- `sub {…}`: a reference to a subroutine. -/
  | anonSub (body : List Stmt)
  /-- A call of a subroutine by name; `none` for the arguments of `&name;`, which passes the
  caller's `@_`. -/
  | call (name : String) (args : Option (List Expr))
  /-- A call through a code reference. -/
  | callRef (code : Expr) (args : List Expr)
  /-- A built-in function with its arguments. -/
  | builtin (name : String) (args : List Expr)
  /-- `print`, `printf` or `say`, to a handle. -/
  | print (kind : PrintKind) (handle : Option Expr) (args : List Expr)
  /-- `sort`, with a comparison. -/
  | sortList (cmp : Option Expr) (items : List Expr)
  /-- `map` (`grep` when `keep`) with a body run for each item as `$_`. -/
  | mapList (keep : Bool) (body : Expr) (items : List Expr)
  /-- A function of a block and a list (`first`, `any`, `reduce`, …). -/
  | blockCall (name : String) (body : Expr) (items : List Expr)
  /-- `m//`: a match against a target (`$_` when none), negated by `!~`. -/
  | matchOp (target : Option Expr) (negated : Bool) (pattern : List Part) (flags : Bytes)
  /-- `s///`, with the replacement as an expression. -/
  | substOp (target : Option Expr) (pattern : List Part) (replacement : Expr) (flags : Bytes)
  /-- `tr///`. -/
  | transOp (target : Option Expr) (source dest : Bytes) (flags : Bytes)
  /-- `qr//`. -/
  | quoteRegex (pattern : List Part) (flags : Bytes)
  /-- `<handle>`: a line, or all lines in list context. -/
  | readLine (handle : Expr)
  /-- `do {…}`: the value of the block's last statement. -/
  | doBlock (body : List Stmt)
  /-- `eval {…}`: the block, its death caught into `$@`. -/
  | evalBlock (body : List Stmt)
  /-- `next`, `last` and `redo`, with a label. -/
  | loopCtl (kind : LoopCtl) (label : Option String)
  /-- `return`. -/
  | ret (value : Option Expr)
  /-- A file test, `-e file`. -/
  | fileTest (op : UInt8) (file : Expr)
  /-- A handle named by a bareword. -/
  | handle (name : String)
  /-- `wantarray`. -/
  | wantArray
  /-- The name of a subroutine given to `sort`. -/
  | subName (name : String)
  /-- `invocant->method(args)`: the method is a name, or an expression that gives a name or a
  code reference. -/
  | methodCall (invocant : Expr) (method : Expr) (args : List Expr)
  deriving Repr, Inhabited

/-- A part of an interpolated string. -/
inductive Part where
  /-- Text. -/
  | text (bs : Bytes)
  /-- A scalar's text. -/
  | scalar (e : Expr)
  /-- A list's texts joined by `$"`. -/
  | list (e : Expr)
  /-- A mark of case. -/
  | mark (m : CaseMark)
  deriving Repr, Inhabited

/-- A statement. -/
inductive Stmt where
  /-- An expression, on a line. -/
  | expr (e : Expr) (line : Nat)
  /-- `if`/`elsif`/`else`: the first branch whose condition is true. -/
  | ifs (branches : List (Expr × List Stmt)) (otherwise : List Stmt) (line : Nat)
  /-- `while` (or `until` when `negated`), with a `continue` block. -/
  | whileLoop (label : Option String) (cond : Option Expr) (negated : Bool) (body cont : List Stmt)
      (line : Nat)
  /-- A statement run first and then while (or until) a condition holds: `do {} while`. -/
  | doLoop (body : Expr) (cond : Expr) (negated : Bool) (line : Nat)
  /-- `for (init; cond; step)`. -/
  | cfor (label : Option String) (init cond step : Option Expr) (body : List Stmt) (line : Nat)
  /-- `foreach`, with the loop variable (`$_` when none; `my` when `fresh`). -/
  | foreach (label : Option String) (var : Option String) (fresh : Bool) (items : Expr)
      (body : List Stmt) (line : Nat)
  /-- A bare block, a loop run once. -/
  | block (label : Option String) (body : List Stmt)
  deriving Repr, Inhabited

end

/-- A subroutine. -/
structure SubDef where
  /-- Its name. -/
  name : String
  /-- Its body. -/
  body : List Stmt
  deriving Repr, Inhabited

/-- A program: its statements, its subroutines and its `END` blocks. -/
structure Program where
  /-- The statements. -/
  body : List Stmt
  /-- The subroutines, in the order they are defined. -/
  subs : List SubDef := []
  /-- The `BEGIN` blocks. -/
  begins : List (List Stmt) := []
  /-- The `END` blocks, in the order they are written. -/
  ends : List (List Stmt) := []
  /-- The classes each package inherits from by `use parent` or `use base`. -/
  inherits : List (String × List String) := []
  deriving Repr, Inhabited

/-- Whether an expression stands for an array or a hash. -/
def Expr.isAggregate : Expr → Bool
  | .arrayVar _ | .hashVar _ | .derefArray _ | .derefHash _ => true
  | _ => false

end Chatbot.Perl
