import Mathlib.Data.List.Infix

/-!
# Common definitions

The result codes of `common.h` and the string tests the subsystems share.
Strings are byte strings in the source and `String`s here.
-/

namespace HiDumper.Native

/-- Result codes of `common.h`. -/
inductive DumpStatus where
  | dumpRequestMax
  | dumpTimeout
  | dumpInvalidArg
  | dumpNoPermission
  | dumpFail
  | dumpOk
  | dumpHelp
  | dumpCheckOk
  | dumpMoreData
  deriving DecidableEq, Repr

/-- `DumpCommonUtils::StartWith`, and `str.find(head) == 0`. -/
def startWith (str head : String) : Bool := head.toList.isPrefixOf str.toList

/-- `str.find(sub) != npos`. -/
def contains (str sub : String) : Bool := decide (sub.toList <:+: str.toList)

end HiDumper.Native
