import HiDumper.Native.DumpImplement

/-!
# RawParam and DumpClientMain: how arguments reach the service

Model of `DumpClientMain::Main` and of the argument table of `RawParam`
(`raw_param.{h,cpp}`). A C string is the text before its terminator and `strlen` the
number of its UTF-8 bytes; a null pointer is `none`. Arguments travel as
`std::u16string`s: the conversions and the parcel they travel in belong to other
repositories and are the fields of `Str16Codec`.
-/

namespace HiDumper.Native

/-- `ARG_MIN_COUNT` of `dump_controller.h`. -/
def argMinCount : Nat := 1

/-- `Str8ToStr16` and `Str16ToStr8` with a parcel between them. -/
structure Str16Codec (Str16 : Type) where
  str8ToStr16 : String → Str16
  str16ToStr8 : Str16 → String
  lossless : ∀ str, str16ToStr8 (str8ToStr16 str) = str

variable {Str16 : Type} (codec : Str16Codec Str16)

/-! ## The client -/

/-- The checks of `DumpClientMain::Main` on one argument. -/
def clientArg (arg : Option String) : Option String :=
  match arg with
  | none => none
  | some arg => if arg = "" || arg.utf8ByteSize > singleArgMaxLen then none else some arg

/-- `DumpClientMain::SetCmdArgs`, where `ppid` is what `getppid` returns. -/
def setCmdArgs (ppid : Int) (argv : List String) : List Str16 :=
  (argv ++ [toString ppid]).map codec.str8ToStr16

/-- `DumpClientMain::Main` up to the request: the vector it transmits, or `none` for
    `DUMP_INVALID_ARG`. -/
def clientMain (ppid : Int) (argv : List (Option String)) : Option (List Str16) :=
  if argv.length > argMaxCount then none
  else (argv.mapM clientArg).map (setCmdArgs codec ppid)

/-! ## The service -/

/-- `sprintf_s(dest, destMax, "%s", text)`: the text written, `none` if it does not fit
    with its terminator. -/
def sprintfS (destMax : Nat) (text : String) : Option String :=
  if text.utf8ByteSize + 1 > destMax then none else some text

/-- The loop of `RawParam::Init` over the slots of `argHead_` that are left. A text that
    does not fit ends it, with this slot and all later ones null. -/
def fillArgHead : Nat → List Str16 → List (Option String)
  | 0, _ => []
  | slots + 1, [] => List.replicate (slots + 1) none
  | slots + 1, arg :: args =>
    match sprintfS singleArgMaxLen (codec.str16ToStr8 arg) with
    | none => List.replicate (slots + 1) none
    | some value => some value :: fillArgHead slots args

/-- The argument table of a `RawParam`. -/
structure ArgTable where
  callerPpid : Int := -1
  /-- `argHead_`, of `ARG_MAX_COUNT + 1` pointers. -/
  argHead : List (Option String)

namespace ArgTable

/-- `RawParam::Init`: the last element is the caller's parent process. -/
def init (strings : StringEx) (args : List Str16) : ArgTable :=
  if args.length ≥ argMinCount then
    { callerPpid := (args.getLast?.bind fun ppid =>
        strings.strToInt (codec.str16ToStr8 ppid)).getD (-1)
      argHead := fillArgHead codec (argMaxCount + 1) args.dropLast }
  else { argHead := fillArgHead codec (argMaxCount + 1) args }

/-- The number of pointers before the first null one. -/
def countArgs : List (Option String) → Nat
  | [] => 0
  | none :: _ => 0
  | some _ :: rest => countArgs rest + 1

/-- `RawParam::GetArgc`. -/
def getArgc (table : ArgTable) : Nat := countArgs (table.argHead.take argMaxCount)

/-- `RawParam::GetArgv`. -/
def getArgv (table : ArgTable) : List (Option String) := table.argHead

end ArgTable

end HiDumper.Native
