import Wt88047.Lib.Tally
import Wt88047.Lib.Runs
import Mathlib.Algebra.Order.Ring.Nat

/-! The OMX core: a reference-counted singleton with a table of components, whose libraries are
loaded with their first instance. -/

namespace Wt88047.OmxCore

inductive OmxError
  | none
  | badParameter
  | invalidComponent
  | insufficientResources
  | undefined
  deriving DecidableEq

def ompCompMaxNum : Nat := 3

/-- `g_comp_info`: the names of the components and of their libraries. -/
def compInfo : List (String × String) :=
  [("OMX.qcom.image.jpeg.encoder", "libqomx_jpegenc.so"),
    ("OMX.qcom.image.jpeg.decoder", "libqomx_jpegdec.so")]

/-- An `omx_core_component_t`: the addresses of its `OMX_COMP_MAX_INSTANCES` instances, and whether
its pointers are set. -/
structure Component where
  handle : Fin 3 → Option Nat := fun _ => none
  isOpen : Bool := false
  libHandle : Bool := false
  getInstance : Bool := false
  createCompFunc : Bool := false

/-- `core` is `g_omxcore`, `cnt` its count, and `loaded` how often each library is loaded. `made` and
`freed` are the instances created and de-initialized so far, `inits` the successful calls of
`OMX_Init`, `deinits` the calls of `OMX_Deinit` that found the count above 0. -/
structure World where
  core : Option (Fin 2 → Component) := none
  cnt : Nat := 0
  loaded : Fin 2 → Nat := fun _ => 0
  made : List Nat := []
  freed : List Nat := []
  inits : Nat := 0
  deinits : Nat := 0

namespace World

def setComponent (w : World) (k : Fin 2 → Component) (c : Fin 2) (x : Component) : World :=
  { w with core := some fun d => if d = c then x else k d }

def setLoaded (w : World) (c : Fin 2) (n : Nat) : World :=
  { w with loaded := fun d => if d = c then n else w.loaded d }

end World

/-- `OMX_Init`, given whether `malloc` succeeds. -/
def init (malloc : Bool) (w : World) : OmxError × World :=
  if w.core.isSome then (.none, { w with cnt := w.cnt + 1, inits := w.inits + 1 })
  else if ompCompMaxNum < compInfo.length then (.undefined, w)
  else if malloc then
    (.none, { w with core := some fun _ => {}, cnt := w.cnt + 1, inits := w.inits + 1 })
  else (.insufficientResources, w)

def deinit (w : World) : World :=
  let core := if w.cnt = 1 then none else w.core
  if w.cnt ≠ 0 then { w with core, cnt := w.cnt - 1, deinits := w.deinits + 1 } else { w with core }

def getCompFromList (compName : String) : Option (Fin 2) :=
  (List.finRange 2).find? fun c => (compInfo.get c).1 = compName

def getFreeInstIdx (x : Component) : Option (Fin 3) :=
  (List.finRange 3).find? fun i => (x.handle i).isNone

def isCompActive (x : Component) : Bool := (List.finRange 3).any fun i => (x.handle i).isSome

def places : List (Fin 2 × Fin 3) :=
  (List.finRange 2).flatMap fun c => (List.finRange 3).map fun i => (c, i)

def getIdxFromHandle (k : Fin 2 → Component) (h : Nat) : Option (Fin 2 × Fin 3) :=
  places.find? fun p => (k p.1).handle p.2 = some h

/-- What the dynamic linker and the library answer in one `OMX_GetHandle`: `create` is the address
of the new component. -/
structure Outcome where
  dlopen : Bool := true
  createCompFunc : Bool := true
  getInstance : Bool := true
  instanceMade : Bool := true
  create : Option Nat := none

def exitError (k : Fin 2 → Component) (c : Fin 2) (closeHandle : Bool) (w : World) : OmxError × World :=
  if closeHandle then
    (.invalidComponent,
      (w.setComponent k c { k c with libHandle := false }).setLoaded c (w.loaded c - 1))
  else (.invalidComponent, w)

/-- `OMX_GetHandle` from the call of `get_instance` on. A call through a pointer that is not set or
into a library that is not loaded has no result. -/
def instantiate (k : Fin 2 → Component) (c : Fin 2) (i : Fin 3) (closeHandle : Bool) (o : Outcome)
    (w : World) : Option (OmxError × World) :=
  if (k c).getInstance && (k c).createCompFunc && decide (0 < w.loaded c) then
    if o.instanceMade then
      match o.create with
      | some h =>
        some (.none,
          { w.setComponent k c { k c with handle := fun j => if j = i then some h else (k c).handle j }
            with made := h :: w.made })
      | none => some (exitError k c closeHandle w)
    else some (exitError k c closeHandle w)
  else none

def load (k : Fin 2 → Component) (c : Fin 2) (i : Fin 3) (o : Outcome) (w : World) :
    Option (OmxError × World) :=
  if o.dlopen then
    let x : Component := { k c with isOpen := true, libHandle := true, getInstance := o.getInstance,
                                    createCompFunc := o.createCompFunc }
    let k' : Fin 2 → Component := fun d => if d = c then x else k d
    let w' := (w.setComponent k c x).setLoaded c (w.loaded c + 1)
    if o.createCompFunc && o.getInstance then instantiate k' c i true o w'
    else some (exitError k' c true w')
  else some (.invalidComponent, w.setComponent k c { k c with libHandle := false })

/-- `OMX_GetHandle`; without a core it has no result. -/
def getHandle (handleNull : Bool) (componentName : Option String) (o : Outcome) (w : World) :
    Option (OmxError × World) :=
  if handleNull then some (.badParameter, w)
  else
    match componentName with
    | none => some (.invalidComponent, w)
    | some name =>
      w.core.bind fun k =>
        match getCompFromList name with
        | none => some (.invalidComponent, w)
        | some c =>
          match getFreeInstIdx (k c) with
          | none => some (.invalidComponent, w)
          | some i => if (k c).isOpen then instantiate k c i false o w else load k c i o w

/-- `OMX_FreeHandle`, given whether `ComponentDeInit` succeeds; `none` is the handle NULL. -/
def freeHandle (hComp : Option Nat) (deInit : Bool) (w : World) : Option (OmxError × World) :=
  match hComp with
  | none => some (.badParameter, w)
  | some h =>
    w.core.bind fun k =>
      match getIdxFromHandle k h with
      | none => some (.invalidComponent, w)
      | some (c, i) =>
        if deInit then
          let x : Component := { k c with handle := fun j => if j = i then none else (k c).handle j }
          if isCompActive x then some (.none, { w.setComponent k c x with freed := h :: w.freed })
          else
            some (.none,
              { (w.setComponent k c { handle := x.handle }).setLoaded c (w.loaded c - 1)
                with freed := h :: w.freed })
        else some (.invalidComponent, w)

inductive Event
  | init (malloc : Bool)
  | deinit
  | getHandle (handleNull : Bool) (componentName : Option String) (o : Outcome)
  | freeHandle (hComp : Option Nat) (deInit : Bool)

/-- The calls, which all hold `g_omxcore_lock`. -/
def step (w : World) : Event → Option World
  | .init malloc => some (init malloc w).2
  | .deinit => some (deinit w)
  | .getHandle handleNull componentName o => (getHandle handleNull componentName o w).map Prod.snd
  | .freeHandle hComp deInit => (freeHandle hComp deInit w).map Prod.snd

def slotCount (w : World) (h : Nat) : Nat :=
  match w.core with
  | none => 0
  | some k => places.countP fun p => (k p.1).handle p.2 = some h

structure Tabled (w : World) : Prop where
  marked : ∀ k, w.core = some k → ∀ c, (k c).isOpen = true ↔
    0 < w.loaded c ∧ (k c).getInstance = true ∧ (k c).createCompFunc = true
  once : ∀ h, w.made.count h = w.freed.count h + slotCount w h ∧ slotCount w h ≤ 1
  matched : w.deinits ≤ w.inits ∧ (w.core = none ↔ w.inits = w.deinits)

def LeavesTable (w : World) : Event → Prop
  | .getHandle handleNull name o =>
    ∀ r ∈ getHandle handleNull name o w, r.1 ≠ .none → r.2 = w
  | _ => True

def toLoad (w : World) (handleNull : Bool) (name : Option String) : Option (Fin 2) :=
  if handleNull then none
  else
    name.bind fun n => w.core.bind fun k => (getCompFromList n).bind fun c =>
      if (k c).isOpen then none else some c

def Outcome.Complete (o : Outcome) : Prop :=
  o.dlopen = true →
    o.createCompFunc = true ∧ o.getInstance = true ∧ o.instanceMade = true ∧ o.create.isSome = true

/-- A call that loads a library does not fail once it has, and the last `OMX_Deinit` comes when no
instance is left. -/
def Orderly (w : World) : Event → Prop
  | .getHandle handleNull name o => (toLoad w handleNull name).isSome = true → o.Complete
  | .deinit => w.cnt = 1 → ∀ k ∈ w.core, ∀ c, isCompActive (k c) = false
  | _ => True

def Distinct (w : World) : Event → Prop
  | .getHandle _ _ o => ∀ h ∈ o.create, w.made.count h = w.freed.count h
  | _ => True

instance (o : Outcome) : Decidable o.Complete :=
  inferInstanceAs (Decidable (o.dlopen = true → o.createCompFunc = true ∧ o.getInstance = true ∧
    o.instanceMade = true ∧ o.create.isSome = true))

instance (w : World) (e : Event) : Decidable (Orderly w e) :=
  match e with
  | .getHandle handleNull name o =>
    inferInstanceAs (Decidable ((toLoad w handleNull name).isSome = true → o.Complete))
  | .deinit => inferInstanceAs (Decidable (w.cnt = 1 → ∀ k ∈ w.core, ∀ c, isCompActive (k c) = false))
  | .init _ | .freeHandle _ _ => isTrue trivial

instance (w : World) (e : Event) : Decidable (Distinct w e) :=
  match e with
  | .getHandle _ _ o => inferInstanceAs (Decidable (∀ h ∈ o.create, w.made.count h = w.freed.count h))
  | .init _ | .deinit | .freeHandle _ _ => isTrue trivial

def ready (handle : Fin 3 → Option Nat) : Component :=
  { handle, isOpen := true, libHandle := true, getInstance := true, createCompFunc := true }

/-- An open component has an instance, a loaded library and its entry points; one that is not has
nothing. -/
structure Shape (x : Component) (loaded : Nat) : Prop where
  used : isCompActive x = true → loaded = 1 ∧ x = ready x.handle
  unused : isCompActive x = false → loaded = 0 ∧ x = {}

structure Inv (w : World) : Prop where
  shape : ∀ k, w.core = some k → ∀ c, Shape (k c) (w.loaded c)
  idle : w.core = none → ∀ c, w.loaded c = 0
  once : ∀ h, w.made.count h = w.freed.count h + slotCount w h ∧ slotCount w h ≤ 1
  refs : w.cnt + w.deinits = w.inits ∧ (w.core = none ↔ w.cnt = 0)

theorem places_nodup : places.Nodup := by decide

theorem mem_places (c : Fin 2) (i : Fin 3) : (c, i) ∈ places := by
  revert c i
  decide

section

variable {x : Component} {handle : Fin 3 → Option Nat} {i : Fin 3} {h n : Nat}

theorem isCompActive_iff : isCompActive x = true ↔ ∃ i, (x.handle i).isSome = true := by
  simp [isCompActive]

theorem active_of_handle (hi : x.handle i = some h) : isCompActive x = true :=
  isCompActive_iff.mpr ⟨i, by rw [hi]; rfl⟩

theorem handle_of_inactive (hx : isCompActive x = false) (i : Fin 3) : x.handle i = none := by
  cases hi : x.handle i with
  | none => rfl
  | some h => exact absurd (active_of_handle hi) (by simp [hx])

theorem Shape.isOpen_eq (hs : Shape x n) : x.isOpen = isCompActive x := by
  cases ha : isCompActive x with
  | true =>
    rw [(hs.used ha).2]
    rfl
  | false => rw [(hs.unused ha).2]

theorem getFreeInstIdx_some (hi : getFreeInstIdx x = some i) : x.handle i = none := by
  have := List.find?_some hi
  simpa using this

def addHandle (x : Component) (i : Fin 3) (h : Nat) : Fin 3 → Option Nat :=
  fun j => if j = i then some h else x.handle j

theorem ready_shape (hx : isCompActive (ready handle) = true) : Shape (ready handle) 1 :=
  ⟨fun _ => ⟨rfl, rfl⟩, fun hn => absurd hx (by simp [hn])⟩

end

section

variable {w w' : World} {k : Fin 2 → Component} {c : Fin 2} {i : Fin 3} {h : Nat}

def World.put (w : World) (k : Fin 2 → Component) (c : Fin 2) (i : Fin 3) (h : Nat) : World :=
  { (w.setComponent k c (ready (addHandle (k c) i h))).setLoaded c 1 with made := h :: w.made }

theorem setLoaded_self {n : Nat} (hn : w.loaded c = n) : w.setLoaded c n = w := by
  have hl : (fun d => if d = c then n else w.loaded d) = w.loaded := by
    funext d
    by_cases hd : d = c <;> simp [hd, hn]
  unfold World.setLoaded
  rw [hl]

theorem setComponent_self {x : Component} (hk : w.core = some k) (hx : k c = x) :
    w.setComponent k c x = w := by
  have hl : (fun d => if d = c then x else k d) = k := by
    funext d
    by_cases hd : d = c <;> simp [hd, hx]
  unfold World.setComponent
  rw [hl, ← hk]

variable {r : OmxError × World}

theorem instantiate_cases (hs : Shape (k c) (w.loaded c)) (hopen : (k c).isOpen = true)
    {o : Outcome} (hr : instantiate k c i false o w = some r) :
    (r.1 ≠ .none ∧ r.2 = w) ∨ ∃ h, o.create = some h ∧ r = (.none, w.put k c i h) := by
  obtain ⟨hn, hx⟩ := hs.used (hs.isOpen_eq ▸ hopen)
  have hcall : ((k c).getInstance && (k c).createCompFunc && decide (0 < w.loaded c)) = true := by
    rw [hx, hn]
    rfl
  unfold instantiate at hr
  rw [hcall, if_pos rfl] at hr
  cases hm : o.instanceMade with
  | false =>
    rw [hm] at hr
    obtain rfl := Option.some.inj hr
    exact .inl ⟨nofun, rfl⟩
  | true =>
    rw [hm, if_pos rfl] at hr
    cases hcr : o.create with
    | none =>
      rw [hcr] at hr
      obtain rfl := Option.some.inj hr
      exact .inl ⟨nofun, rfl⟩
    | some h =>
      rw [hcr] at hr
      obtain rfl := Option.some.inj hr
      refine .inr ⟨h, rfl, ?_⟩
      have hput : w.put k c i h =
          { w.setComponent k c (ready (addHandle (k c) i h)) with made := h :: w.made } := by
        unfold World.put
        rw [setLoaded_self (w := w.setComponent k c _) hn]
      rw [hput, hx]
      rfl

theorem load_cases (hk : w.core = some k) (hs : Shape (k c) (w.loaded c))
    (hopen : (k c).isOpen = false) {o : Outcome} (ho : o.Complete) (hr : load k c i o w = some r) :
    (r.1 ≠ .none ∧ r.2 = w) ∨ ∃ h, o.create = some h ∧ r = (.none, w.put k c i h) := by
  obtain ⟨hn, hx⟩ := hs.unused (hs.isOpen_eq ▸ hopen)
  unfold load at hr
  cases hd : o.dlopen with
  | false =>
    rw [hd] at hr
    obtain rfl := Option.some.inj hr
    refine .inl ⟨nofun, setComponent_self hk ?_⟩
    rw [hx]
  | true =>
    obtain ⟨h1, h2, h3, h4⟩ := ho hd
    obtain ⟨h, h4⟩ := Option.isSome_iff_exists.mp h4
    simp only [hd, h1, h2, Bool.and_self, if_true, hn] at hr
    unfold instantiate at hr
    simp only [if_true, World.setLoaded, World.setComponent, h3, h4, Bool.and_self,
      Nat.zero_add, Nat.lt_one_iff, decide_true, Option.some.injEq] at hr
    have hcore : ∀ x y : Component, (fun d => if d = c then x else if d = c then y else k d) =
        fun d => if d = c then x else k d := fun x y => by
      funext d
      by_cases hd : d = c <;> simp [hd]
    refine .inr ⟨h, h4, ?_⟩
    rw [← hr]
    simp only [World.put, World.setLoaded, World.setComponent, hcore]
    rfl

theorem getHandle_cases (hw : Inv w) {handleNull : Bool} {name : Option String} {o : Outcome}
    (ho : Orderly w (.getHandle handleNull name o)) (hr : getHandle handleNull name o w = some r) :
    (r.1 ≠ .none ∧ r.2 = w) ∨
      ∃ k c i h, w.core = some k ∧ (k c).handle i = none ∧ o.create = some h ∧
        r = (.none, w.put k c i h) := by
  unfold getHandle at hr
  cases handleNull with
  | true =>
    obtain rfl := Option.some.inj hr
    exact .inl ⟨nofun, rfl⟩
  | false =>
    cases name with
    | none =>
      obtain rfl := Option.some.inj hr
      exact .inl ⟨nofun, rfl⟩
    | some n =>
      obtain ⟨k, hk, hr⟩ := Option.bind_eq_some_iff.mp hr
      cases hc : getCompFromList n with
      | none =>
        rw [hc] at hr
        obtain rfl := Option.some.inj hr
        exact .inl ⟨nofun, rfl⟩
      | some c =>
        rw [hc] at hr
        cases hi : getFreeInstIdx (k c) with
        | none =>
          simp only [hi] at hr
          obtain rfl := Option.some.inj hr
          exact .inl ⟨nofun, rfl⟩
        | some i =>
          simp only [hi] at hr
          have hfree := getFreeInstIdx_some hi
          have hs := hw.shape k hk c
          have hcases : (r.1 ≠ .none ∧ r.2 = w) ∨ ∃ h, o.create = some h ∧ r = (.none, w.put k c i h) := by
            cases hopen : (k c).isOpen with
            | true =>
              rw [hopen, if_pos rfl] at hr
              exact instantiate_cases hs hopen hr
            | false =>
              rw [hopen] at hr
              exact load_cases hk hs hopen (ho (by simp [toLoad, hk, hc, hopen])) hr
          exact hcases.imp_right fun ⟨h, hcr, he⟩ => ⟨k, c, i, h, hk, hfree, hcr, he⟩

def World.take (w : World) (k : Fin 2 → Component) (c : Fin 2) (x : Component) (n h : Nat) : World :=
  { (w.setComponent k c x).setLoaded c n with freed := h :: w.freed }

theorem freeHandle_cases (hw : Inv w) {hComp : Option Nat} {deInit : Bool}
    (hr : freeHandle hComp deInit w = some r) :
    r.2 = w ∨ ∃ k c i h x n, w.core = some k ∧ (k c).handle i = some h ∧ Shape x n ∧
      (∀ j, x.handle j = if j = i then none else (k c).handle j) ∧ r.2 = w.take k c x n h := by
  cases hComp with
  | none =>
    obtain rfl := Option.some.inj hr
    exact .inl rfl
  | some h =>
    obtain ⟨k, hk, hr⟩ := Option.bind_eq_some_iff.mp hr
    cases hf : getIdxFromHandle k h with
    | none =>
      rw [hf] at hr
      obtain rfl := Option.some.inj hr
      exact .inl rfl
    | some p =>
      obtain ⟨c, i⟩ := p
      have hat : (k c).handle i = some h := by
        have := List.find?_some hf
        simpa using this
      rw [hf] at hr
      cases deInit with
      | false =>
        obtain rfl := Option.some.inj hr
        exact .inl rfl
      | true =>
        obtain ⟨hn, hx⟩ := (hw.shape k hk c).used (active_of_handle hat)
        simp only [if_true] at hr
        generalize hg : (fun j => if j = i then none else (k c).handle j) = g at hr
        have hkc : { k c with handle := g } = ready g := by rw [hx]; rfl
        rw [hkc] at hr
        have hat' : ∀ j, g j = if j = i then none else (k c).handle j := fun j => hg ▸ rfl
        cases ha : isCompActive (ready g) with
        | true =>
          rw [ha, if_pos rfl] at hr
          obtain rfl := Option.some.inj hr
          refine .inr ⟨k, c, i, h, ready g, 1, hk, hat, ready_shape ha, hat', ?_⟩
          unfold World.take
          rw [setLoaded_self (w := w.setComponent k c _) hn]
        | false =>
          rw [ha] at hr
          obtain rfl := Option.some.inj hr
          have hempty : g = fun _ => none := funext fun j => handle_of_inactive ha j
          refine .inr ⟨k, c, i, h, {}, 0, hk, hat, ⟨fun h => absurd h (by decide), fun _ => ⟨rfl, rfl⟩⟩,
            fun j => ?_, ?_⟩
          · rw [← hat', hempty]
          · show ({ (w.setComponent k c { handle := g }).setLoaded c (w.loaded c - 1)
              with freed := h :: w.freed } : World) = _
            rw [hempty, hn]
            rfl

theorem slotCount_some (hk : w.core = some k) (h : Nat) :
    slotCount w h = places.countP fun p => (k p.1).handle p.2 = some h := by
  unfold slotCount
  rw [hk]

theorem slotCount_write {x : Component} (hk : w.core = some k)
    (hk' : w'.core = some fun d => if d = c then x else k d)
    (hat : ∀ j, j ≠ i → x.handle j = (k c).handle j) (g : Nat) :
    slotCount w' g + (if (k c).handle i = some g then 1 else 0) =
      slotCount w g + if x.handle i = some g then 1 else 0 := by
  rw [slotCount_some hk, slotCount_some hk']
  have h := Tally.countP_exchange (p := fun p : Fin 2 × Fin 3 => (k p.1).handle p.2 = some g)
    (q := fun p => (if p.1 = c then x else k p.1).handle p.2 = some g)
    places_nodup (mem_places c i) fun p hp => by
      obtain ⟨d, j⟩ := p
      by_cases hd : d = c
      · subst hd
        have hj : j ≠ i := fun hj => hp (by rw [hj])
        simp [hat j hj]
      · simp [hd]
  simpa using h

namespace Inv

theorem write (hw : Inv w) (hk : w.core = some k) {x : Component} {n : Nat} (hx : Shape x n)
    {made freed : List Nat} (honce : ∀ g, made.count g = freed.count g + slotCount (w.setComponent k c x) g ∧
      slotCount (w.setComponent k c x) g ≤ 1) :
    Inv { (w.setComponent k c x).setLoaded c n with made, freed } := by
  refine ⟨fun k' hk' d => ?_, nofun, honce, hw.refs.1, ?_⟩
  · obtain rfl := Option.some.inj hk'
    show Shape (if d = c then x else k d) (if d = c then n else w.loaded d)
    by_cases hd : d = c
    · rw [if_pos hd, if_pos hd]
      exact hx
    · rw [if_neg hd, if_neg hd]
      exact hw.shape k hk d
  · exact iff_of_false nofun fun hc => by
      have := hw.refs.2.mpr hc
      rw [hk] at this
      cases this

theorem put (hw : Inv w) (hk : w.core = some k) (hi : (k c).handle i = none)
    (hnew : w.made.count h = w.freed.count h) : Inv (w.put k c i h) := by
  have hput : (ready (addHandle (k c) i h)).handle i = some h := if_pos rfl
  refine hw.write hk (ready_shape (active_of_handle hput)) fun g => ?_
  have hslots := @slotCount_write w (w.setComponent k c (ready (addHandle (k c) i h))) _ _ _ _ hk rfl
    (fun j hj => (if_neg hj : addHandle (k c) i h j = _)) g
  show (h :: w.made).count g = w.freed.count g + _ ∧ _
  obtain ⟨hcount, hle⟩ := hw.once g
  rw [hi, hput] at hslots
  by_cases hg : h = g
  · subst hg
    simp only [reduceCtorEq, if_false, if_true] at hslots
    rw [List.count_cons_self]
    omega
  · simp only [reduceCtorEq, Option.some.injEq, hg, if_false] at hslots
    rw [List.count_cons_of_ne hg]
    omega

theorem take (hw : Inv w) (hk : w.core = some k) (hi : (k c).handle i = some h) {x : Component}
    {n : Nat} (hx : Shape x n) (hat : ∀ j, x.handle j = if j = i then none else (k c).handle j) :
    Inv (w.take k c x n h) := by
  refine hw.write hk hx fun g => ?_
  show w.made.count g = (h :: w.freed).count g + _ ∧ _
  have hslots := @slotCount_write w (w.setComponent k c x) _ _ _ _ hk rfl
    (fun j hj => (hat j).trans (if_neg hj)) g
  obtain ⟨hcount, hle⟩ := hw.once g
  rw [hi, hat i, if_pos rfl] at hslots
  by_cases hg : h = g
  · subst hg
    simp only [reduceCtorEq, if_false, if_true] at hslots
    rw [List.count_cons_self]
    omega
  · simp only [reduceCtorEq, Option.some.injEq, hg, if_false] at hslots
    rw [List.count_cons_of_ne hg]
    omega

theorem retain (hw : Inv w) (hk : w.core = some k) :
    Inv { w with cnt := w.cnt + 1, inits := w.inits + 1 } := by
  obtain ⟨hsum, -⟩ := hw.refs
  have hcore : ∀ g, slotCount { w with cnt := w.cnt + 1, inits := w.inits + 1 } g = slotCount w g :=
    fun _ => rfl
  refine ⟨hw.shape, hw.idle, fun g => hcore g ▸ hw.once g, ?_, ?_⟩
  · show w.cnt + 1 + w.deinits = w.inits + 1
    omega
  · refine iff_of_false (fun h => ?_) (Nat.succ_ne_zero _)
    exact absurd (hk.symm.trans h) (by simp)

theorem create (hw : Inv w) (hk : w.core = none) :
    Inv { w with core := some fun _ => {}, cnt := w.cnt + 1, inits := w.inits + 1 } := by
  obtain ⟨hsum, -⟩ := hw.refs
  have hempty : ∀ g, (places.countP fun p => decide ((({} : Component).handle p.2) = some g)) = 0 :=
    fun g => List.countP_eq_zero.mpr fun p _ => by simp
  refine ⟨fun k' hk' c => ?_, nofun, fun g => ?_, ?_, iff_of_false nofun (Nat.succ_ne_zero _)⟩
  · obtain rfl := Option.some.inj hk'
    exact ⟨fun h => absurd h Bool.false_ne_true, fun _ => ⟨hw.idle hk c, rfl⟩⟩
  · obtain ⟨hcount, -⟩ := hw.once g
    rw [show slotCount w g = 0 by unfold slotCount; rw [hk]] at hcount
    have hzero := slotCount_some (k := fun _ => {})
      (w := { w with core := some fun _ => {}, cnt := w.cnt + 1, inits := w.inits + 1 }) rfl g
    rw [hzero, hempty]
    exact ⟨hcount, Nat.zero_le _⟩
  · show w.cnt + 1 + w.deinits = w.inits + 1
    omega

theorem init (hw : Inv w) (malloc : Bool) : Inv (init malloc w).2 := by
  unfold OmxCore.init
  by_cases hk : w.core.isSome = true
  · rw [if_pos hk]
    obtain ⟨k, hk⟩ := Option.isSome_iff_exists.mp hk
    exact hw.retain hk
  · rw [if_neg hk, if_neg (by decide)]
    cases malloc with
    | true => exact hw.create (by simpa using hk)
    | false => exact hw

theorem deinit (hw : Inv w) (ho : Orderly w .deinit) : Inv (deinit w) := by
  obtain ⟨hsum, hcnt⟩ := hw.refs
  unfold OmxCore.deinit
  by_cases hone : w.cnt = 1
  · have hinactive := ho hone
    have hz : w.cnt - 1 = 0 := by omega
    simp only [hone, if_true, ne_eq, one_ne_zero, not_false_eq_true]
    refine ⟨nofun, fun _ c => ?_, fun g => ?_, ?_, iff_of_true rfl rfl⟩
    · cases hk : w.core with
      | none => exact hw.idle hk c
      | some k => exact ((hw.shape k hk c).unused (hinactive k hk c)).1
    · obtain ⟨hcount, -⟩ := hw.once g
      have hzero : slotCount w g = 0 := by
        cases hk : w.core with
        | none =>
          unfold slotCount
          rw [hk]
        | some k =>
          rw [slotCount_some hk]
          exact List.countP_eq_zero.mpr fun p _ => by
            simp [handle_of_inactive (hinactive k hk p.1) p.2]
      rw [hzero] at hcount
      exact ⟨hcount, Nat.zero_le _⟩
    · show 0 + (w.deinits + 1) = w.inits
      omega
  · rw [if_neg hone]
    by_cases hzero : w.cnt = 0
    · rw [if_neg (not_not_intro hzero)]
      exact ⟨hw.shape, hw.idle, hw.once, hw.refs⟩
    · simp only [ne_eq, hzero, not_false_eq_true, if_true]
      refine ⟨hw.shape, hw.idle, hw.once, ?_, ?_⟩
      · show w.cnt - 1 + (w.deinits + 1) = w.inits
        omega
      · show w.core = none ↔ w.cnt - 1 = 0
        rw [hcnt]
        omega

theorem step (hw : Inv w) {e : Event} (hd : Distinct w e) (ho : Orderly w e)
    (h : step w e = some w') : Inv w' := by
  cases e with
  | init malloc =>
    obtain rfl := Option.some.inj h
    exact hw.init malloc
  | deinit =>
    obtain rfl := Option.some.inj h
    exact hw.deinit ho
  | getHandle handleNull name o =>
    obtain ⟨r, hr, rfl⟩ := Option.map_eq_some_iff.mp h
    rcases getHandle_cases hw ho hr with ⟨-, he⟩ | ⟨k, c, i, g, hk, hi, hcr, rfl⟩
    · rw [he]
      exact hw
    · exact hw.put hk hi (hd g hcr)
  | freeHandle hComp deInit =>
    obtain ⟨r, hr, rfl⟩ := Option.map_eq_some_iff.mp h
    rcases freeHandle_cases hw hr with he | ⟨k, c, i, g, x, n, hk, hi, hx, hat, he⟩
    · rw [he]
      exact hw
    · rw [he]
      exact hw.take hk hi hx hat

theorem tabled (hw : Inv w) : Tabled w := by
  refine ⟨fun k hk c => ?_, hw.once, by have := hw.refs.1; omega, ?_⟩
  · have hs := hw.shape k hk c
    rw [hs.isOpen_eq]
    cases ha : isCompActive (k c) with
    | true =>
      obtain ⟨hn, hx⟩ := hs.used ha
      refine iff_of_true rfl ⟨by omega, ?_⟩
      rw [hx]
      exact ⟨rfl, rfl⟩
    | false => exact iff_of_false nofun fun h => by have := (hs.unused ha).1; omega
  · rw [hw.refs.2]
    have := hw.refs.1
    omega

theorem leavesTable (hw : Inv w) {e : Event} (ho : Orderly w e) : LeavesTable w e := by
  cases e with
  | getHandle handleNull name o =>
    intro r hr hne
    rcases getHandle_cases hw ho hr with ⟨-, he⟩ | ⟨k, c, i, g, -, -, -, rfl⟩
    · exact he
    · exact absurd rfl hne
  | _ => trivial

end Inv

theorem init_inv : Inv {} :=
  ⟨nofun, fun _ _ => rfl, fun _ => ⟨rfl, Nat.zero_le _⟩, rfl, iff_of_true rfl rfl⟩

end

/-- Over every orderly sequence of calls the table tells the truth, and a failed call leaves no
trace. -/
theorem table_kept {es : List Event} {w : World} (hd : Runs.Along step Distinct {} es)
    (ho : Runs.Along step Orderly {} es) (h : Runs.play step {} es = some w) :
    Tabled w ∧ Runs.Along step LeavesTable {} es := by
  have hstep : ∀ u e v, Inv u → Distinct u e ∧ Orderly u e → step u e = some v → Inv v :=
    fun u e v hu he hv => hu.step he.1 he.2 hv
  exact ⟨(Runs.play_invariant hstep init_inv (hd.and ho) h).tabled,
    Runs.Along.of_invariant hstep (fun u e hu he => hu.leavesTable he.2) init_inv (hd.and ho)⟩

/-- Two encoders, one failed creation between them, everything given back. -/
theorem table_kept_encoders : ∃ w,
    Runs.play step {} [.init true,
      .getHandle false (some "OMX.qcom.image.jpeg.encoder") { create := some 1 },
      .getHandle false (some "OMX.qcom.image.jpeg.encoder") {},
      .getHandle false (some "OMX.qcom.image.jpeg.encoder") { create := some 2 },
      .freeHandle (some 1) true, .freeHandle (some 2) true, .deinit] = some w ∧ Tabled w :=
  ⟨_, rfl, (@table_kept [.init true,
      .getHandle false (some "OMX.qcom.image.jpeg.encoder") { create := some 1 },
      .getHandle false (some "OMX.qcom.image.jpeg.encoder") {},
      .getHandle false (some "OMX.qcom.image.jpeg.encoder") { create := some 2 },
      .freeHandle (some 1) true, .freeHandle (some 2) true, .deinit] _ (by decide) (by decide) rfl).1⟩

/-- The library lacks a symbol: it is closed again and the component stays marked open. -/
theorem failed_load_stays_open : ¬∀ (es : List Event) (w : World), Runs.Along step Distinct {} es →
    Runs.play step {} es = some w → Tabled w ∧ Runs.Along step LeavesTable {} es := by
  intro h
  have hs := h [.init true,
    .getHandle false (some "OMX.qcom.image.jpeg.encoder") { getInstance := false }] _ (by decide) rfl
  exact absurd ((hs.1.marked _ rfl 0).mp rfl).1 (by decide)

end Wt88047.OmxCore
