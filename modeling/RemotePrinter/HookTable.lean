-- The table `_hook_items` and the libraries that are loaded before its hooks are
-- made.
import RemotePrinter.Service

namespace RemotePrinter

/-- The name of a function as a string literal. -/
def Proc.name : Proc → Bytes
  | .OpenPrinterA => ascii ['O', 'p', 'e', 'n', 'P', 'r', 'i', 'n', 't', 'e', 'r', 'A']
  | .OpenPrinterW => ascii ['O', 'p', 'e', 'n', 'P', 'r', 'i', 'n', 't', 'e', 'r', 'W']
  | .StartPagePrinter =>
    ascii ['S', 't', 'a', 'r', 't', 'P', 'a', 'g', 'e', 'P', 'r', 'i', 'n', 't', 'e', 'r']
  | .StartDocPrinterW =>
    ascii ['S', 't', 'a', 'r', 't', 'D', 'o', 'c', 'P', 'r', 'i', 'n', 't', 'e', 'r', 'W']
  | .WritePrinter => ascii ['W', 'r', 'i', 't', 'e', 'P', 'r', 'i', 'n', 't', 'e', 'r']
  | .EndPagePrinter => ascii ['E', 'n', 'd', 'P', 'a', 'g', 'e', 'P', 'r', 'i', 'n', 't', 'e', 'r']
  | .EndDocPrinter => ascii ['E', 'n', 'd', 'D', 'o', 'c', 'P', 'r', 'i', 'n', 't', 'e', 'r']
  | .ClosePrinter => ascii ['C', 'l', 'o', 's', 'e', 'P', 'r', 'i', 'n', 't', 'e', 'r']
  | .CloseSpoolFileHandle =>
    ascii ['C', 'l', 'o', 's', 'e', 'S', 'p', 'o', 'o', 'l', 'F', 'i', 'l', 'e', 'H', 'a', 'n', 'd',
      'l', 'e']
  | .CommitSpoolData =>
    ascii ['C', 'o', 'm', 'm', 'i', 't', 'S', 'p', 'o', 'o', 'l', 'D', 'a', 't', 'a']
  | .DocumentEvent => ascii ['D', 'o', 'c', 'u', 'm', 'e', 'n', 't', 'E', 'v', 'e', 'n', 't']
  | .DocumentPropertiesW =>
    ascii ['D', 'o', 'c', 'u', 'm', 'e', 'n', 't', 'P', 'r', 'o', 'p', 'e', 'r', 't', 'i', 'e', 's',
      'W']
  | .EnumFormsW => ascii ['E', 'n', 'u', 'm', 'F', 'o', 'r', 'm', 's', 'W']
  | .EnumPrintersW => ascii ['E', 'n', 'u', 'm', 'P', 'r', 'i', 'n', 't', 'e', 'r', 's', 'W']
  | .FindClosePrinterChangeNotification =>
    ascii ['F', 'i', 'n', 'd', 'C', 'l', 'o', 's', 'e', 'P', 'r', 'i', 'n', 't', 'e', 'r', 'C', 'h',
      'a', 'n', 'g', 'e', 'N', 'o', 't', 'i', 'f', 'i', 'c', 'a', 't', 'i', 'o', 'n']
  | .FindFirstPrinterChangeNotification =>
    ascii ['F', 'i', 'n', 'd', 'F', 'i', 'r', 's', 't', 'P', 'r', 'i', 'n', 't', 'e', 'r', 'C', 'h',
      'a', 'n', 'g', 'e', 'N', 'o', 't', 'i', 'f', 'i', 'c', 'a', 't', 'i', 'o', 'n']
  | .FindNextPrinterChangeNotification =>
    ascii ['F', 'i', 'n', 'd', 'N', 'e', 'x', 't', 'P', 'r', 'i', 'n', 't', 'e', 'r', 'C', 'h', 'a',
      'n', 'g', 'e', 'N', 'o', 't', 'i', 'f', 'i', 'c', 'a', 't', 'i', 'o', 'n']
  | .FreePrinterNotifyInfo =>
    ascii ['F', 'r', 'e', 'e', 'P', 'r', 'i', 'n', 't', 'e', 'r', 'N', 'o', 't', 'i', 'f', 'y', 'I',
      'n', 'f', 'o']
  | .GetDefaultPrinterW =>
    ascii ['G', 'e', 't', 'D', 'e', 'f', 'a', 'u', 'l', 't', 'P', 'r', 'i', 'n', 't', 'e', 'r', 'W']
  | .GetPrinterDataW =>
    ascii ['G', 'e', 't', 'P', 'r', 'i', 'n', 't', 'e', 'r', 'D', 'a', 't', 'a', 'W']
  | .GetPrinterDataExW =>
    ascii ['G', 'e', 't', 'P', 'r', 'i', 'n', 't', 'e', 'r', 'D', 'a', 't', 'a', 'E', 'x', 'W']
  | .GetPrinterW => ascii ['G', 'e', 't', 'P', 'r', 'i', 'n', 't', 'e', 'r', 'W']
  | .GetSpoolFileHandle =>
    ascii ['G', 'e', 't', 'S', 'p', 'o', 'o', 'l', 'F', 'i', 'l', 'e', 'H', 'a', 'n', 'd', 'l', 'e']
  | .IsValidDevmodeW =>
    ascii ['I', 's', 'V', 'a', 'l', 'i', 'd', 'D', 'e', 'v', 'm', 'o', 'd', 'e', 'W']
  | .OpenPrinter2W => ascii ['O', 'p', 'e', 'n', 'P', 'r', 'i', 'n', 't', 'e', 'r', '2', 'W']
  | .OpenPrinter2A => ascii ['O', 'p', 'e', 'n', 'P', 'r', 'i', 'n', 't', 'e', 'r', '2', 'A']
  | .OpenUsbPort => ascii ['O', 'p', 'e', 'n', 'U', 's', 'b', 'P', 'o', 'r', 't']
  | .CloseUsbPort => ascii ['C', 'l', 'o', 's', 'e', 'U', 's', 'b', 'P', 'o', 'r', 't']
  | .WriteUSB => ascii ['W', 'r', 'i', 't', 'e', 'U', 'S', 'B']
  | .ReadUSB => ascii ['R', 'e', 'a', 'd', 'U', 'S', 'B']
  | .PrintBitmap => ascii ['P', 'r', 'i', 'n', 't', 'B', 'i', 't', 'm', 'a', 'p']
  | .Print1DBarcode => ascii ['P', 'r', 'i', 'n', 't', '1', 'D', 'B', 'a', 'r', 'c', 'o', 'd', 'e']
  | .PrintPDF417 => ascii ['P', 'r', 'i', 'n', 't', 'P', 'D', 'F', '4', '1', '7']
  | .PrintQRCode => ascii ['P', 'r', 'i', 'n', 't', 'Q', 'R', 'C', 'o', 'd', 'e']

/-- The libraries that the table names. -/
inductive HookModule where
  | WINSPOOL_DRV
  | BXLPDIR_DLL
  deriving DecidableEq

/-- `"WINSPOOL.DRV"` and `"BXLPDIR.DLL"`. -/
def HookModule.name : HookModule → Bytes
  | WINSPOOL_DRV => ascii ['W', 'I', 'N', 'S', 'P', 'O', 'O', 'L', '.', 'D', 'R', 'V']
  | BXLPDIR_DLL => ascii ['B', 'X', 'L', 'P', 'D', 'I', 'R', '.', 'D', 'L', 'L']

/-- An entry of the table, by the arguments of the macro `HOOK_ITEM_FUNC`. -/
structure HOOK_ITEM_FUNC where
  moduleName : HookModule
  procName : Proc
  deriving DecidableEq

/-- The table, up to the entry that ends it. -/
def _hook_items : List HOOK_ITEM_FUNC :=
  [{ moduleName := .WINSPOOL_DRV, procName := .OpenPrinterA },
    { moduleName := .WINSPOOL_DRV, procName := .OpenPrinterW },
    { moduleName := .WINSPOOL_DRV, procName := .StartPagePrinter },
    { moduleName := .WINSPOOL_DRV, procName := .StartDocPrinterW },
    { moduleName := .WINSPOOL_DRV, procName := .WritePrinter },
    { moduleName := .WINSPOOL_DRV, procName := .EndPagePrinter },
    { moduleName := .WINSPOOL_DRV, procName := .ClosePrinter },
    { moduleName := .BXLPDIR_DLL, procName := .OpenUsbPort },
    { moduleName := .BXLPDIR_DLL, procName := .CloseUsbPort },
    { moduleName := .BXLPDIR_DLL, procName := .WriteUSB },
    { moduleName := .BXLPDIR_DLL, procName := .ReadUSB },
    { moduleName := .BXLPDIR_DLL, procName := .PrintBitmap },
    { moduleName := .BXLPDIR_DLL, procName := .Print1DBarcode },
    { moduleName := .BXLPDIR_DLL, procName := .PrintPDF417 },
    { moduleName := .BXLPDIR_DLL, procName := .PrintQRCode }]

/-- `EndDocPrinter` is the one spooler function that the table leaves out. -/
theorem mem_hook_items {H : Type} (c : SpoolCall H) :
    { moduleName := .WINSPOOL_DRV, procName := c.proc } ∈ _hook_items ↔
      c.proc ≠ .EndDocPrinter := by
  cases c <;> simp [_hook_items]

/-- `_preloaded_dlls`: "WINSPOOL.DRV". -/
def _preloaded_dlls : List Bytes := [HookModule.WINSPOOL_DRV.name]

abbrev HMODULE := Nat

end RemotePrinter
