/-!
# Texts of the memory tables

`StringUtils::SetWidth` and the unit of `MemoryUtil`, as the memory tables use
them. Widths count bytes, as `std::string` does.
-/

namespace HiDumper.Native

/-- `StringUtils::SetWidth`: fill up to `width` bytes, after the text if `left`. -/
def setWidth (width : Nat) (fill : Char) (left : Bool) (str : String) : String :=
  let padding := String.ofList (List.replicate (width - str.utf8ByteSize) fill)
  if left then str ++ padding else padding ++ str

/-- `MemoryUtil::KB_UNIT_`. -/
def kbUnit : String := " kB"

/-- `MemoryInfo::AddKbUnit`. -/
def addKbUnit (value : UInt64) : String := toString value.toNat ++ kbUnit

end HiDumper.Native
