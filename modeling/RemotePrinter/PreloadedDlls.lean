-- The libraries that `start_hook` loads and `stop_hook` frees. The list of
-- their handles only grows: `stop_hook` sets the `hmod` of an entry to NULL
-- and leaves the entry in the list.
import RemotePrinter.HookSessions

open Interactive

namespace RemotePrinter

namespace minhooklink

open HookOp

abbrev HookTrace := List (Obs HookOp HookOp.Answer Unit)

/-! ## Loads and frees -/

/-- A `LoadLibraryA` that has answered the module. -/
def Loads (m : HMODULE) : Obs HookOp HookOp.Answer Unit → Bool
  | ⟨.LoadLibraryA _, hmod, _⟩ => hmod == some m
  | _ => false

def Frees (m : HMODULE) : Obs HookOp HookOp.Answer Unit → Bool
  | ⟨.FreeLibrary hmod, _, _⟩ => hmod == m
  | _ => false

def loads (m : HMODULE) (tr : HookTrace) : Nat := tr.countP (Loads m)

def frees (m : HMODULE) (tr : HookTrace) : Nat := tr.countP (Frees m)

/-- The entries of the list that have the module as their `hmod`. -/
def held (m : HMODULE) (s : State) : Nat :=
  s._preloaded_dll_list.countP fun info => info.2 == some m

/-- 1 if `LoadLibraryA` has just answered the module, and it is not in the list yet. -/
def inHand (m : HMODULE) (tr : HookTrace) : Nat := if tr.getLast?.any (Loads m) then 1 else 0

/-- 1 if the module has just been freed, and its entry is not set to NULL yet. -/
def released (m : HMODULE) (tr : HookTrace) : Nat := if tr.getLast?.any (Frees m) then 1 else 0

/-- What holds at every moment. -/
def Accounted (m : HMODULE) (tr : HookTrace) (s : State) : Prop :=
  held m s + frees m tr + inHand m tr = loads m tr + released m tr ∧ frees m tr ≤ loads m tr

/-- What holds between the turns of the loops. -/
structure Even (m : HMODULE) (tr : HookTrace) (s : State) : Prop where
  count : held m s + frees m tr = loads m tr
  not_inHand : inHand m tr = 0
  not_released : released m tr = 0

section
variable {m : HMODULE} {h : HookTrace} {s s' : State}

theorem Even.accounted (he : Even m h s) : Accounted m h s := by
  obtain ⟨hcount, hin, hrel⟩ := he
  constructor
  · omega
  · omega

theorem loads_snoc (o : Obs HookOp HookOp.Answer Unit) :
    loads m (h ++ [o]) = loads m h + if Loads m o then 1 else 0 := by
  simp [loads, List.countP_append, List.countP_cons]

theorem frees_snoc (o : Obs HookOp HookOp.Answer Unit) :
    frees m (h ++ [o]) = frees m h + if Frees m o then 1 else 0 := by
  simp [frees, List.countP_append, List.countP_cons]

theorem inHand_snoc (o : Obs HookOp HookOp.Answer Unit) :
    inHand m (h ++ [o]) = if Loads m o then 1 else 0 := by
  simp [inHand]

theorem released_snoc (o : Obs HookOp HookOp.Answer Unit) :
    released m (h ++ [o]) = if Frees m o then 1 else 0 := by
  simp [released]

/-- A quiet operation neither loads nor frees. -/
theorem Even.snoc {op : HookOp} {a : op.Answer} {l : Unit} (he : Even m h s) (hq : op.Quiet)
    (henv : env s op a l s') : Even m (h ++ [⟨op, a, l⟩]) s' := by
  have hload : Loads m ⟨op, a, l⟩ = false := by cases op <;> first | rfl | exact hq.elim
  have hfree : Frees m ⟨op, a, l⟩ = false := by cases op <;> first | rfl | exact hq.elim
  constructor
  · rw [loads_snoc, frees_snoc, hload, hfree]
    simpa [held, (env_cases henv).1 hq] using he.count
  · rw [inHand_snoc, hload]
    rfl
  · rw [released_snoc, hfree]
    rfl

/-! ## The programs -/

/-- A quiet operation, and then the rest. -/
theorem Even.call {α : Type} {op : HookOp} {k : op.Answer → Hooking α}
    {Q : α → HookTrace → State → Prop} (he : Even m h s) (hq : op.Quiet)
    (hk : ∀ a h s, Even m h s → (k a).Always env (Accounted m) Q h s) :
    (Prog.call op k).Always env (Accounted m) Q h s :=
  ⟨he.accounted, fun a _ s₁ henv => hk a _ s₁ (he.snoc hq henv)⟩

theorem Even.done {α : Type} {a : α} (he : Even m h s) :
    (Prog.done a : Hooking α).Always env (Accounted m) (fun _ h s => Even m h s) h s :=
  ⟨he.accounted, he⟩

theorem get_target_even {item : HOOK_ITEM} (he : Even m h s) :
    (get_target item).Always env (Accounted m) (fun _ h s => Even m h s) h s := by
  refine he.call trivial fun hModule h s he => ?_
  cases hModule with
  | none => exact he.done
  | some hModule => exact he.call trivial fun pTarget h s he => he.done

theorem hook_item_even {item : HOOK_ITEM} (he : Even m h s) :
    (hook_item item).Always env (Accounted m) (fun _ h s => Even m h s) h s := by
  refine he.call trivial fun created h s he => ?_
  cases created with
  | false => exact he.done
  | true =>
    refine (get_target_even he).bind fun pTarget h s he => ?_
    cases pTarget with
    | none => exact he.done
    | some pTarget => exact he.call trivial fun b h s he => he.done

theorem hook_loop_even {items : List HOOK_ITEM} {result : Bool} (he : Even m h s) :
    (hook_loop result items).Always env (Accounted m) (fun _ h s => Even m h s) h s := by
  induction items generalizing h s result with
  | nil => exact he.done
  | cons item rest ih =>
    refine (hook_item_even he).bind fun b h s he => ?_
    cases b with
    | false => exact ih he
    | true => exact ih he

theorem unhook_item_even {item : HOOK_ITEM} (he : Even m h s) :
    (unhook_item item).Always env (Accounted m) (fun _ h s => Even m h s) h s := by
  refine (get_target_even he).bind fun pTarget h s he => ?_
  cases pTarget with
  | none => exact he.done
  | some pTarget => exact he.call trivial fun b h s he => he.done

theorem unhook_loop_even {items : List HOOK_ITEM} (he : Even m h s) :
    (unhook_loop items).Always env (Accounted m) (fun _ h s => Even m h s) h s := by
  induction items generalizing h s with
  | nil => exact he.done
  | cons item rest ih => exact (unhook_item_even he).bind fun _ h s he => ih he

/-- A loaded module is in hand until it is in the list. -/
theorem load_dlls_even {dlls : List Bytes} (he : Even m h s) :
    (load_dlls dlls).Always env (Accounted m) (fun _ h s => Even m h s) h s := by
  induction dlls generalizing h s with
  | nil => exact he.done
  | cons dll rest ih =>
    refine ⟨he.accounted, fun a l s₁ henv => ?_⟩
    obtain rfl : s₁ = s := henv
    cases a with
    | none =>
      refine ih ⟨?_, inHand_snoc _, released_snoc _⟩
      rw [loads_snoc, frees_snoc]
      exact he.count
    | some hMod =>
      have hcount := he.count
      refine ⟨⟨?_, ?_⟩, fun u l' s₂ henv' => ?_⟩
      · rw [loads_snoc, frees_snoc, inHand_snoc, released_snoc]
        simp [Frees]
        omega
      · rw [loads_snoc, frees_snoc]
        simp [Frees]
        omega
      · obtain rfl : s₂ = _ := henv'
        refine ih ⟨?_, inHand_snoc _, released_snoc _⟩
        rw [loads_snoc, frees_snoc, loads_snoc, frees_snoc]
        simp [Loads, Frees, held, List.countP_append, List.countP_cons] at hcount ⊢
        omega

theorem modify_at {α : Type} (pre : List α) (x : α) (post : List α) (f : α → α) :
    (pre ++ x :: post).modify pre.length f = pre ++ f x :: post :=
  List.modifyTailIdx_add (List.modifyHead f) 0 pre (x :: post)

/-- The loop of `stop_hook` over the list, with `pre` behind it. An entry is freed while it is in
the list, and once. -/
theorem free_dlls_even {pre post : List (Bytes × Option HMODULE)} (he : Even m h s)
    (hlist : s._preloaded_dll_list = pre ++ post) (hpre : ∀ info ∈ pre, info.2 = none) :
    (free_dlls pre.length (post.map Prod.snd)).Always env (Accounted m)
      (fun _ h s => Even m h s ∧ held m s = 0) h s := by
  induction post generalizing pre h s with
  | nil =>
    refine ⟨he.accounted, he, ?_⟩
    unfold held
    rw [hlist, List.append_nil, List.countP_eq_zero]
    intro info hinfo
    simp [hpre info hinfo]
  | cons info post ih =>
    obtain ⟨dll, hmod⟩ := info
    have hnext : ∀ x ∈ pre ++ [(dll, none)], x.2 = (none : Option HMODULE) := by
      intro x hx
      rcases List.mem_append.mp hx with hx | hx
      · exact hpre x hx
      · rw [List.mem_singleton.mp hx]
    have hlength : (pre ++ [(dll, (none : Option HMODULE))]).length = pre.length + 1 := by simp
    cases hmod with
    | none =>
      have hrest := ih he (by simp [hlist]) hnext
      rw [hlength] at hrest
      exact hrest
    | some hmod =>
      have hcount := he.count
      have hheld : held m s = (pre ++ post).countP (fun info => info.2 == some m) +
          if hmod = m then 1 else 0 := by
        simp [held, hlist, List.countP_append, List.countP_cons]
        omega
      refine ⟨he.accounted, fun freed l s₁ henv => ⟨⟨?_, ?_⟩, fun u l' s₂ henv' => ?_⟩⟩
      · obtain rfl : s₁ = s := henv
        rw [loads_snoc, frees_snoc, inHand_snoc, released_snoc]
        simp [Loads, Frees]
        omega
      · rw [loads_snoc, frees_snoc]
        simp [Loads, Frees]
        omega
      · obtain rfl : s₁ = s := henv
        obtain rfl : s₂ = s₁.hmod_NULL pre.length := henv'
        have hnull : (s₁.hmod_NULL pre.length)._preloaded_dll_list =
            (pre ++ [(dll, none)]) ++ post := by
          simp [State.hmod_NULL, hlist, modify_at]
        have he' : Even m (h ++ [⟨.FreeLibrary hmod, freed, l⟩] ++ [⟨.hmod_NULL pre.length, u, l'⟩])
            (s₁.hmod_NULL pre.length) := by
          refine ⟨?_, inHand_snoc _, released_snoc _⟩
          rw [loads_snoc, frees_snoc, loads_snoc, frees_snoc]
          simp [Loads, Frees, held, hnull, List.countP_append] at hcount hheld ⊢
          omega
        have hrest := ih he' hnull hnext
        rw [hlength] at hrest
        exact hrest

/-- A `stop_hook` leaves no module in the list. -/
theorem stop_hook_even {items : List HOOK_ITEM} (he : Even m h s) :
    (stop_hook items).Always env (Accounted m) (fun _ h s => Even m h s ∧ held m s = 0) h s := by
  refine (unhook_loop_even he).bind fun _ h s he => ?_
  refine ⟨he.accounted, fun hmods l s₁ henv => ?_⟩
  have hquiet : HookOp.Quiet ._preloaded_dll_list := trivial
  have he₁ := he.snoc hquiet henv
  obtain ⟨rfl, rfl⟩ := henv
  have hlist : s₁._preloaded_dll_list = [] ++ s₁._preloaded_dll_list := rfl
  refine (free_dlls_even he₁ hlist (by simp)).bind fun _ h s hfreed => ?_
  obtain ⟨he, hheld⟩ := hfreed
  refine ⟨he.accounted, fun b l s₁ henv => ?_⟩
  have hquiet : HookOp.Quiet MH_Uninitialize := trivial
  have he₁ := he.snoc hquiet henv
  refine ⟨he₁.accounted, he₁, ?_⟩
  unfold held at hheld ⊢
  rw [(env_cases henv).1 hquiet]
  exact hheld

theorem start_hook_even {dlls : List Bytes} {items : List HOOK_ITEM} (he : Even m h s) :
    (start_hook dlls items).Always env (Accounted m) (fun _ h s => Even m h s) h s := by
  refine (load_dlls_even he).bind fun _ h s he => ?_
  refine he.call trivial fun ok h s he => ?_
  cases ok with
  | false => exact he.done
  | true => exact hook_loop_even he

theorem program_even {dlls : List Bytes} {items : List HOOK_ITEM} (c : Call) (he : Even m h s) :
    (c.program dlls items).Always env (Accounted m)
      (fun _ h s => Even m h s ∧ (c = .stop_hook → held m s = 0)) h s := by
  cases c with
  | start_hook =>
    refine (start_hook_even he).bind fun _ h s he => ?_
    exact ⟨he.accounted, he, fun hc => by cases hc⟩
  | stop_hook => exact (stop_hook_even he).mono fun _ h s hstop => ⟨hstop.1, fun _ => hstop.2⟩

theorem calls_even {dlls : List Bytes} {items : List HOOK_ITEM} {cs : List Call}
    (he : Even m h s) :
    (calls dlls items cs).Always env (Accounted m)
      (fun _ h s => Even m h s ∧ (cs.getLast? = some .stop_hook → held m s = 0)) h s := by
  induction cs generalizing h s with
  | nil => exact ⟨he.accounted, he, fun hc => by simp at hc⟩
  | cons c rest ih =>
    refine (program_even c he).bind fun _ h s hc => ?_
    obtain ⟨he, hstop⟩ := hc
    cases rest with
    | nil => exact ⟨he.accounted, he, fun hc => hstop (by simpa using hc)⟩
    | cons c' rest =>
      rw [List.getLast?_cons_cons]
      exact ih he

end

/-! ## The balance -/

/-- At every moment of the calls the entries with the module account for its loads and frees, but
for a module in hand between two steps of a loop. There is never a free without a load, and a
`stop_hook` leaves as many frees as loads. -/
theorem libraries_are_freed_as_often_as_loaded {dlls : List Bytes} {items : List HOOK_ITEM}
    {cs : List Call} {s₀ : State} (hs₀ : s₀._preloaded_dll_list = []) (m : HMODULE) :
    (∀ tr s, (calls dlls items cs).RunsTo env s₀ tr s →
      held m s + frees m tr + inHand m tr = loads m tr + released m tr ∧
        frees m tr ≤ loads m tr) ∧
    ∀ tr r s, (calls dlls items (cs ++ [.stop_hook])).RunsIn env s₀ tr r s →
      frees m tr = loads m tr ∧ held m s = 0 := by
  have he : Even m [] s₀ := ⟨by simp [held, hs₀, frees, loads], rfl, rfl⟩
  constructor
  · intro tr s hrun
    exact (calls_even he).of_runsTo hrun
  · intro tr r s hrun
    cases r with
    | error x => exact x.elim
    | ok u =>
      obtain ⟨heven, hstop⟩ := (calls_even he).of_runsIn hrun
      have hheld := hstop (by simp)
      refine ⟨?_, hheld⟩
      have hcount := heven.count
      rw [hheld, Nat.zero_add] at hcount
      exact hcount

/-! ### The library of the spooler -/

/-- `_preloaded_dlls` loaded as the module 1. -/
def loaded : State := { _preloaded_dll_list := _preloaded_dlls.map fun dll => (dll, some 1) }

theorem load_dlls_run : (load_dlls _preloaded_dlls).RunsIn env {}
    (_preloaded_dlls.flatMap fun dll =>
      [⟨.LoadLibraryA dll, some 1, ()⟩, ⟨.push_back dll 1, (), ()⟩]) (.ok ()) loaded := by
  unfold _preloaded_dlls
  have hload : ∀ dll, env {} (.LoadLibraryA dll) (some 1) () {} := fun _ => rfl
  have hpush : ∀ dll, env {} (.push_back dll 1) () () { _preloaded_dll_list := [(dll, some 1)] } :=
    fun _ => rfl
  exact .next (hload _) (.next (hpush _) (.ended () _))

/-- A `stop_hook` after a `start_hook` whose `MH_Initialize` fails. -/
theorem the_spooler_library_is_freed : ∃ tr s,
    (calls _preloaded_dlls [] [.start_hook, .stop_hook]).RunsIn env {} tr (.ok ()) s ∧
      loads 1 tr = 1 ∧ frees 1 tr = 1 := by
  have hinit : env loaded .MH_Initialize false () loaded := rfl
  have hlist : env loaded ._preloaded_dll_list [some 1] () loaded := ⟨rfl, rfl⟩
  have hfree : env loaded (.FreeLibrary 1) true () loaded := rfl
  have hnull : env loaded (.hmod_NULL 0) () () (loaded.hmod_NULL 0) := rfl
  have huninit : env (loaded.hmod_NULL 0) MH_Uninitialize false () (loaded.hmod_NULL 0) :=
    ⟨[], .nil, rfl⟩
  have hstart : (start_hook _preloaded_dlls []).RunsIn env {} _ (.ok false) loaded :=
    load_dlls_run.bind (.next hinit (.ended false _))
  have hstop : (stop_hook []).RunsIn env loaded _ (.ok ()) (loaded.hmod_NULL 0) :=
    .next hlist (.next hfree (.next hnull (.next huninit (.ended () _))))
  have hrun : (calls _preloaded_dlls [] ([.start_hook] ++ [.stop_hook])).RunsIn env {} _ (.ok ())
      (loaded.hmod_NULL 0) :=
    (hstart.bind (.ended () _)).bind (hstop.bind (.ended () _))
  obtain ⟨hfreed, -⟩ := (libraries_are_freed_as_often_as_loaded rfl 1).2 _ _ _ hrun
  exact ⟨_, _, hrun, rfl, hfreed⟩

/-- Between the answer of `LoadLibraryA` and `push_back` no entry stands for the load. -/
theorem a_module_in_hand_is_not_in_the_list :
    ¬ ∀ (dlls : List Bytes) (items : List HOOK_ITEM) (cs : List Call) (tr : HookTrace) (s : State)
      (m : HMODULE), (calls dlls items cs).RunsTo env {} tr s →
      held m s = loads m tr - frees m tr := by
  intro law
  have hload : ∀ dll, env {} (.LoadLibraryA dll) (some 1) () {} := fun _ => rfl
  have hrun : (calls _preloaded_dlls [] [.start_hook]).RunsTo env {} _ {} :=
    .next (hload _) (.start _ _)
  have hheld := law _ _ _ _ _ 1 hrun
  revert hheld
  decide

end minhooklink

end RemotePrinter
