import HiDumper.Native.Common

/-!
# getopt_long in return-in-order mode

Model of the C library's `getopt_long` for an option string that starts with `-`:
elements of `argv` that are no options are returned as they are met, with code 1.
The parsers of the repository call it in a loop until it returns -1 and give up at
the first `?`, and nothing else changes its state. So the model is the list of the
results of all calls, each with the values of `optind`, `optarg` and `optopt` that
the caller can read after it.

Long options may be abbreviated if the abbreviation is unique. A single `-` is not
an option.
-/

namespace HiDumper.Native

/-- `has_arg` of a `struct option`. -/
inductive HasArg where
  | noArgument
  | requiredArgument
  | optionalArgument
  deriving DecidableEq, Repr

/-- A `struct option` with null `flag` and `val` 0. -/
structure LongOption where
  name : String
  hasArg : HasArg
  deriving DecidableEq, Repr

/-- What a call returns. -/
inductive GetoptCode where
  /-- 0: the long option `longOptions[*longindex]`. -/
  | long (name : String) (optarg : Option String)
  /-- The character of a short option. -/
  | short (c : Char) (optarg : Option String)
  /-- 1: an element that is not an option. -/
  | plain (arg : String)
  /-- `?`, where `none` stands for an `optopt` of 0. -/
  | unknown (optopt : Option Char)
  deriving DecidableEq, Repr

/-- The result of one call. -/
structure GetoptResult where
  code : GetoptCode
  optind : Nat
  deriving DecidableEq, Repr

namespace GetoptLong

/-- Where the calls after those for one element of `argv` go on. -/
inductive Next where
  /-- They do not: the caller stops. -/
  | stop
  /-- At the next element. -/
  | one
  /-- At the one after it: the next element was an argument. -/
  | two
  deriving DecidableEq, Repr

/-- The option that `name` abbreviates, if there is only one or it is the exact name. -/
def findLong (longOptions : List LongOption) (name : List Char) : Option LongOption :=
  match longOptions.find? fun option => option.name.toList = name with
  | some option => some option
  | none =>
    match longOptions.filter fun option => name.isPrefixOf option.name.toList with
    | [option] => some option
    | _ => none

/-- The call for the element `--text` at position `optind`. -/
def longResult (longOptions : List LongOption) (optind : Nat) (next : Option String)
    (text : List Char) : GetoptResult × Next :=
  let unknown : GetoptResult × Next := (⟨.unknown none, optind + 1⟩, .stop)
  match findLong longOptions (text.takeWhile (· ≠ '=')) with
  | none => unknown
  | some option =>
    match text.dropWhile (· ≠ '=') with
    | _ :: value =>
      if option.hasArg = .noArgument then unknown
      else (⟨.long option.name (some (String.ofList value)), optind + 1⟩, .one)
    | [] =>
      if option.hasArg = .requiredArgument then
        match next with
        | none => unknown
        | some value => (⟨.long option.name (some value), optind + 2⟩, .two)
      else (⟨.long option.name none, optind + 1⟩, .one)

/-- Does the option string have `c`, and if so, does `c` take an argument? -/
def findShort (c : Char) : List Char → Option Bool
  | [] => none
  | d :: rest => if d = c ∧ c ≠ ':' then some (rest.head? = some ':') else findShort c rest

/-- The calls for the characters of a short option element at position `optind`. -/
def shortResults (optstring : List Char) (optind : Nat) (next : Option String) :
    List Char → List GetoptResult × Next
  | [] => ([], .one)
  | c :: rest =>
    let after := if rest = [] then optind + 1 else optind
    match findShort c optstring with
    | none => ([⟨.unknown (some c), after⟩], .stop)
    | some false =>
      let (results, goOn) := shortResults optstring optind next rest
      (⟨.short c none, after⟩ :: results, goOn)
    | some true =>
      if rest ≠ [] then ([⟨.short c (some (String.ofList rest)), optind + 1⟩], .one)
      else
        match next with
        | none => ([⟨.unknown (some c), optind + 1⟩], .stop)
        | some value => ([⟨.short c (some value), optind + 2⟩], .two)

/-- The calls for one element of `argv`. -/
def elementResults (longOptions : List LongOption) (optstring : List Char) (optind : Nat)
    (next : Option String) (arg : String) : List GetoptResult × Next :=
  match arg.toList with
  | '-' :: '-' :: [] => ([], .stop)
  | '-' :: '-' :: text =>
    let (result, goOn) := longResult longOptions optind next text
    ([result], goOn)
  | '-' :: c :: rest => shortResults optstring optind next (c :: rest)
  | _ => ([⟨.plain arg, optind + 1⟩], .one)

end GetoptLong

open GetoptLong in
/-- The results of the calls from position `optind` on. `optstring` is the option
    string without its leading `-`. -/
def getoptLong (longOptions : List LongOption) (optstring : List Char) (optind : Nat) :
    List String → List GetoptResult
  | [] => []
  | arg :: rest =>
    let (results, next) := elementResults longOptions optstring optind rest.head? arg
    match next, rest with
    | .one, rest => results ++ getoptLong longOptions optstring (optind + 1) rest
    | .two, _ :: rest => results ++ getoptLong longOptions optstring (optind + 2) rest
    | _, _ => results

end HiDumper.Native
