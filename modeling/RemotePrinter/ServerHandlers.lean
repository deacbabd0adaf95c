-- The handlers of the server, `ApiForwardHandler` in `userdef_server.h`, for
-- the spooler functions: each casts and unpacks its arguments, tests one
-- function pointer, calls the original and packs the result.
import RemotePrinter.Service

open Interactive

namespace RemotePrinter

/-- A handler called a function pointer that is NULL. -/
structure NullCall where
  proc : Proc

abbrev Handler (w : PtrWidth) (α : Type) :=
  Prog (SpoolCall (HANDLE w)) SpoolCall.Ret NullCall α

namespace ApiForwardHandler
variable {w : PtrWidth}

/-- The call through a function pointer. `fp` says which pointers are not NULL. -/
def callOriginal (fp : Proc → Bool) (c : SpoolCall (HANDLE w)) : Handler w c.Ret :=
  if fp c.proc then Prog.perform c else .fail ⟨c.proc⟩

/-- The shape of every handler: it answers `failure` if the pointer it tests is NULL, else
it calls the original and packs what that answers. -/
def guarded {α : Type} (fp : Proc → Bool) (tested : Proc) (failure : α)
    (c : SpoolCall (HANDLE w)) (pack : c.Ret → α) : Handler w α :=
  if fp tested then do
    let ret ← callOriginal fp c
    return pack ret
  else
    return failure

/-- `_return["return"] = false` on the empty map. -/
def notOpened : StdMap I64 := StdMap.set [] kReturn 0

/-- The map that an open answers. A TRUE comes with a handle in `localPrinter`. -/
def packOpen (r : OpenRet (HANDLE w)) : StdMap I64 :=
  if r.ret.toBool then
    (notOpened.set kReturn 1).set kPhPrinter ((r.phPrinter.map int64OfHandle).getD 0)
  else notOpened

/-- `pLocalDefault`, built from the arguments of an open. -/
def localDefault (pDefaultExist : Bool) (pDatatype pDevMode : Bytes) (DesiredAccess : I32) :
    Option PRINTER_DEFAULTS :=
  if pDefaultExist then
    some { pDatatype := THRIFT_ZERO_SIZE_STRING_TO_NULL pDatatype
           pDevMode := THRIFT_ZERO_SIZE_STRING_TO_NULL pDevMode
           DesiredAccess := DesiredAccess }
  else none

def OpenPrinterA (fp : Proc → Bool) (pPrinterName : Bytes) (pDefaultExist : Bool)
    (pDatatype pDevMode : Bytes) (DesiredAccess : I32) : Handler w (StdMap I64) :=
  guarded fp .OpenPrinterA notOpened
    (.OpenPrinterA (THRIFT_ZERO_SIZE_STRING_TO_NULL pPrinterName) true
      (localDefault pDefaultExist pDatatype pDevMode DesiredAccess))
    packOpen

def OpenPrinterW (fp : Proc → Bool) (pPrinterName : Bytes) (pDefaultExist : Bool)
    (pDatatype pDevMode : Bytes) (DesiredAccess : I32) : Handler w (StdMap I64) :=
  guarded fp .OpenPrinterW notOpened
    (.OpenPrinterW (THRIFT_ZERO_SIZE_STRING_TO_NULL pPrinterName) true
      (localDefault pDefaultExist pDatatype pDevMode DesiredAccess))
    packOpen

def StartPagePrinter (fp : Proc → Bool) (hPrinter : I64) : Handler w Bool :=
  guarded fp .StartPagePrinter false (.StartPagePrinter (handleOfInt64 w hPrinter)) BOOL.toBool

def StartDocPrinterW (fp : Proc → Bool) (hPrinter : I64) (Level : I32)
    (pDocName pOutputFile pDatatype : Bytes) : Handler w I32 :=
  guarded fp .StartDocPrinterW 0
    (.StartDocPrinterW (handleOfInt64 w hPrinter) Level
      (some { pDocName := THRIFT_ZERO_SIZE_STRING_TO_NULL pDocName
              pOutputFile := THRIFT_ZERO_SIZE_STRING_TO_NULL pOutputFile
              pDatatype := THRIFT_ZERO_SIZE_STRING_TO_NULL pDatatype }))
    id

/-- `_return["return"] = false` on the empty map. -/
def notWritten : StdMap I32 := StdMap.set [] kReturn 0

/-- The pointer tested here is that of `OpenPrinterW`, not that of `WritePrinter`. -/
def WritePrinter (fp : Proc → Bool) (hPrinter : I64) (pBuf : Bytes) (cbBuf : I32) :
    Handler w (StdMap I32) :=
  guarded fp .OpenPrinterW notWritten
    (.WritePrinter (handleOfInt64 w hPrinter) (some (cStr pBuf)) cbBuf true)
    (fun r => if r.ret.toBool then (notWritten.set kReturn 1).set kPcWritten r.pcWritten
      else notWritten)

def EndPagePrinter (fp : Proc → Bool) (hPrinter : I64) : Handler w Bool :=
  guarded fp .EndPagePrinter false (.EndPagePrinter (handleOfInt64 w hPrinter)) BOOL.toBool

def EndDocPrinter (fp : Proc → Bool) (hPrinter : I64) : Handler w Bool :=
  guarded fp .EndDocPrinter false (.EndDocPrinter (handleOfInt64 w hPrinter)) BOOL.toBool

def ClosePrinter (fp : Proc → Bool) (hPrinter : I64) : Handler w Bool :=
  guarded fp .ClosePrinter false (.ClosePrinter (handleOfInt64 w hPrinter)) BOOL.toBool

/-- The processor hands a request to the handler of its method. -/
def handle (w : PtrWidth) (fp : Proc → Bool) : (q : SpoolRequest) → Handler w q.Result
  | .OpenPrinterA name e dt dm acc => OpenPrinterA fp name e dt dm acc
  | .OpenPrinterW name e dt dm acc => OpenPrinterW fp name e dt dm acc
  | .StartPagePrinter h => StartPagePrinter fp h
  | .StartDocPrinterW h l n o t => StartDocPrinterW fp h l n o t
  | .WritePrinter h b n => WritePrinter fp h b n
  | .EndPagePrinter h => EndPagePrinter fp h
  | .EndDocPrinter h => EndDocPrinter fp h
  | .ClosePrinter h => ClosePrinter fp h

end ApiForwardHandler

/-! ## What a handler does -/

namespace SpoolRequest

/-- The call of the original that the handler of a request makes. -/
def original (w : PtrWidth) : SpoolRequest → SpoolCall (HANDLE w)
  | OpenPrinterA name e dt dm acc =>
    .OpenPrinterA (THRIFT_ZERO_SIZE_STRING_TO_NULL name) true
      (ApiForwardHandler.localDefault e dt dm acc)
  | OpenPrinterW name e dt dm acc =>
    .OpenPrinterW (THRIFT_ZERO_SIZE_STRING_TO_NULL name) true
      (ApiForwardHandler.localDefault e dt dm acc)
  | StartPagePrinter h => .StartPagePrinter (handleOfInt64 w h)
  | StartDocPrinterW h l n o t =>
    .StartDocPrinterW (handleOfInt64 w h) l
      (some { pDocName := THRIFT_ZERO_SIZE_STRING_TO_NULL n
              pOutputFile := THRIFT_ZERO_SIZE_STRING_TO_NULL o
              pDatatype := THRIFT_ZERO_SIZE_STRING_TO_NULL t })
  | WritePrinter h b n => .WritePrinter (handleOfInt64 w h) (some (cStr b)) n true
  | EndPagePrinter h => .EndPagePrinter (handleOfInt64 w h)
  | EndDocPrinter h => .EndDocPrinter (handleOfInt64 w h)
  | ClosePrinter h => .ClosePrinter (handleOfInt64 w h)

/-- The function pointer that the handler of a request tests. -/
def tested : SpoolRequest → Proc
  | OpenPrinterA .. => .OpenPrinterA
  | OpenPrinterW .. => .OpenPrinterW
  | StartPagePrinter _ => .StartPagePrinter
  | StartDocPrinterW .. => .StartDocPrinterW
  | WritePrinter .. => .OpenPrinterW
  | EndPagePrinter _ => .EndPagePrinter
  | EndDocPrinter _ => .EndDocPrinter
  | ClosePrinter _ => .ClosePrinter

/-- What the handler of a request answers without a call. -/
def failure : (q : SpoolRequest) → q.Result
  | OpenPrinterA .. => ApiForwardHandler.notOpened
  | OpenPrinterW .. => ApiForwardHandler.notOpened
  | StartPagePrinter _ => false
  | StartDocPrinterW .. => 0
  | WritePrinter .. => ApiForwardHandler.notWritten
  | EndPagePrinter _ => false
  | EndDocPrinter _ => false
  | ClosePrinter _ => false

/-- What the handler of a request answers after the call. -/
def pack (w : PtrWidth) : (q : SpoolRequest) → (q.original w).Ret → q.Result
  | OpenPrinterA .., r => ApiForwardHandler.packOpen r
  | OpenPrinterW .., r => ApiForwardHandler.packOpen r
  | StartPagePrinter _, r => BOOL.toBool r
  | StartDocPrinterW .., r => r
  | WritePrinter .., r =>
    if r.ret.toBool then (ApiForwardHandler.notWritten.set kReturn 1).set kPcWritten r.pcWritten
    else ApiForwardHandler.notWritten
  | EndPagePrinter _, r => BOOL.toBool r
  | EndDocPrinter _, r => BOOL.toBool r
  | ClosePrinter _, r => BOOL.toBool r

end SpoolRequest

namespace ApiForwardHandler
variable {w : PtrWidth}

/-- Every handler has the one shape. -/
theorem handle_eq (fp : Proc → Bool) (q : SpoolRequest) :
    handle w fp q = guarded fp q.tested q.failure (q.original w) (q.pack w) := by
  cases q <;> rfl

/-- A handler makes no call, and answers its failure if it answers, or it makes the one call
of its request and answers what that gave. -/
theorem handle_runsIn {σ ℓ : Type} {env : Env (SpoolCall (HANDLE w)) SpoolCall.Ret ℓ σ}
    {fp : Proc → Bool} {q : SpoolRequest} {s s' : σ} {tr} {a : Except NullCall q.Result}
    (h : (handle w fp q).RunsIn env s tr a s') :
    (tr = [] ∧ s' = s ∧ ∀ v, a = .ok v → fp q.tested = false ∧ v = q.failure) ∨
    (fp q.tested = true ∧ fp (q.original w).proc = true ∧
      ∃ r l, env s (q.original w) r l s' ∧ tr = [⟨q.original w, r, l⟩] ∧ a = .ok (q.pack w r)) := by
  rw [handle_eq] at h
  unfold guarded callOriginal at h
  by_cases ht : fp q.tested = true
  · rw [if_pos ht] at h
    by_cases ho : fp (q.original w).proc = true
    · rw [if_pos ho] at h
      obtain ⟨r, l, s₁, tr', henv, rfl, rfl, hr, rfl⟩ := h
      exact Or.inr ⟨ht, ho, r, l, henv, rfl, hr⟩
    · rw [if_neg ho] at h
      obtain ⟨rfl, hr, rfl⟩ := h
      exact Or.inl ⟨rfl, rfl, fun v hv => by rw [hr] at hv; cases hv⟩
  · rw [if_neg ht] at h
    obtain ⟨rfl, hr, rfl⟩ := h
    refine Or.inl ⟨rfl, rfl, fun v hv => ⟨by simpa using ht, ?_⟩⟩
    rw [hr] at hv
    cases hv
    rfl

end ApiForwardHandler

end RemotePrinter
