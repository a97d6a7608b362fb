import ExpertExchange.Cuda.Platform
import ExpertExchange.Proofs.Act.Asked
import ExpertExchange.Proofs.Act.Ends
import ExpertExchange.Proofs.Cuda.Released

/-!
# Modules that are unloaded

A module is loaded for a kernel. It belongs to the kernel as soon as there is one, and is unloaded
when the kernel goes away; before that the load itself has to unload it when it fails. It does so
when the driver does not find the kernel, but not when the kernel's name cannot be passed to the
driver. Over a whole process every module that was loaded is thus in one place: it was unloaded, or
a kernel that is held has it, or it was left behind by such a name or by a kernel whose device could
not be selected any more.
-/

namespace ExpertExchange

namespace Cuda

def moduleCall? : MachineRequest → Option VendorCall
  | .call (.moduleLoad image options) => some (.moduleLoad image options)
  | .call (.moduleUnload handle) => some (.moduleUnload handle)
  | _ => none

def loaded? : Machine.Reply → Option Nat
  | ⟨.call (.moduleLoad _ _), (code, handle)⟩ => if code = 0 then some handle else none
  | _ => none

def unloaded? : Machine.Reply → Option Nat
  | ⟨.call (.moduleUnload handle), _⟩ => some handle
  | _ => none

/-- The device, by its number for the vendor, that a call made the current one. -/
def selected? : Machine.Reply → Option Int
  | ⟨.call (.setDevice device), (code, _)⟩ => if code = 0 then some device else none
  | _ => none

def loaded (replies : List Machine.Reply) : List Nat := replies.filterMap loaded?

def unloaded (replies : List Machine.Reply) : List Nat := replies.filterMap unloaded?

def Selected (device : Nat) (replies : List Machine.Reply) : Prop :=
  Word.toSigned32 device ∈ replies.filterMap selected?

instance (device : Nat) (replies : List Machine.Reply) : Decidable (Selected device replies) :=
  inferInstanceAs (Decidable (_ ∈ _))

variable {α : Type} {devices device : Nat} {entry : String} {f : CudaFunction}
  {replies said : List Machine.Reply} {s : CudaState} {c : VendorCall}

lemma loaded_append (first rest : List Machine.Reply) :
    loaded (first ++ rest) = loaded first ++ loaded rest := List.filterMap_append

lemma unloaded_append (first rest : List Machine.Reply) :
    unloaded (first ++ rest) = unloaded first ++ unloaded rest := List.filterMap_append

/-- Where no call is about modules, none is loaded and none is unloaded. -/
lemma nothing_of_no_call (h : replies.filterMap (fun r => moduleCall? r.request) = []) :
    loaded replies = [] ∧ unloaded replies = [] := by
  rw [List.filterMap_eq_nil_iff] at h
  constructor
  · refine List.filterMap_eq_nil_iff.2 ?_
    intro r hr
    have hcall := h r hr
    unfold loaded?
    split
    · cases hcall
    · rfl
  · refine List.filterMap_eq_nil_iff.2 ?_
    intro r hr
    have hcall := h r hr
    unfold unloaded?
    split
    · cases hcall
    · rfl

/-- The act calls nothing that loads or unloads a module. -/
abbrev Quiet (m : CudaAct α) : Prop := m.Asks moduleCall? []

lemma tells_nothing {m : CudaAct α} (hm : Quiet m) (s : CudaState) :
    m.Tells s fun replies _ _ => loaded replies = [] ∧ unloaded replies = [] :=
  (Act.Asks.tells hm s).mono fun _ _ _ h => nothing_of_no_call h

lemma quiet_ensure (p : Prop) [Decidable p] (e : DeviceError) :
    Quiet (Act.ensure p e) := by
  refine .of_done fun s => ?_
  by_cases hp : p
  · exact ⟨_, Act.ensure_done hp e s⟩
  · exact ⟨_, Act.ensure_error hp e s⟩

lemma quiet_ofOutcome (o : Outcome DeviceError α) : Quiet (Act.ofOutcome o) :=
  .of_done fun _ => ⟨_, rfl⟩

lemma quiet_pure (a : α) : Quiet (pure a) := .of_done fun _ => ⟨_, rfl⟩

lemma quiet_view (g : CudaState → α) : Quiet (Act.view g) := .of_done fun _ => ⟨_, rfl⟩

lemma quiet_modify (g : CudaState → CudaState) : Quiet (Act.modify g) := .of_done fun _ => ⟨_, rfl⟩

lemma quiet_check (space : CodeSpace) (op : String) (code : Int) :
    Quiet (check space op code) := by
  unfold check
  by_cases hcode : code = 0
  · rw [if_pos hcode]
    exact quiet_pure ()
  · rw [if_neg hcode]
    refine Act.Asks.bind (Act.Asks.request _) ?_
    intro text
    exact .of_done fun _ => ⟨_, rfl⟩

/-- A call that is not about modules. -/
lemma quiet_run (space : CodeSpace) (op : String) (hc : moduleCall? (.call c) = none) :
    Quiet (run space op c) := by
  have hcall : (Machine.call c : CudaAct (Int × c.Value)).Asks moduleCall?
      (moduleCall? (.call c)).toList := .request _
  rw [hc] at hcall
  refine .bind hcall ?_
  intro answer
  refine .bind (quiet_check _ _ _) ?_
  intro _
  exact quiet_pure _

lemma quiet_order (space : CodeSpace) (op : String) (hc : moduleCall? (.call c) = none) :
    Quiet (do let _ ← run space op c; pure ()) :=
  .bind (quiet_run space op hc) fun _ => quiet_pure ()

lemma quiet_setDevice (device : Nat) : Quiet (setDevice device) := quiet_order _ _ rfl

lemma quiet_onHeap {m : Act Machine Heap DeviceError α} (hm : ∀ h, ∃ r, m h = .done r) :
    Quiet (onHeap m) := .within (.of_done hm)

lemma quiet_address (b : Buffer) : Quiet (address b) :=
  .bind (quiet_view _) fun _ => quiet_ofOutcome _

lemma quiet_synchronize (stream : Stream) : Quiet (synchronize stream) :=
  .bind (quiet_setDevice _) fun _ => quiet_order _ _ rfl

lemma quiet_synchronizeUsers (b : Buffer) : Quiet (synchronizeUsers b) :=
  .bind (quiet_view _) fun _ => .forEach fun stream _ => quiet_synchronize stream

lemma quiet_slots (args : List Argument) : Quiet (slots args) := by
  induction args with
  | nil => exact quiet_pure []
  | cons arg args ih =>
    cases arg with
    | buffer b =>
      refine .bind (quiet_address b) ?_
      intro a
      exact .bind ih fun _ => quiet_pure _
    | scalar x => exact .bind ih fun _ => quiet_pure _

lemma quiet_stream (devices device : Nat) (kind : StreamKind) :
    Quiet (stream devices device kind) := by
  refine .bind (quiet_ensure _ _) ?_
  intro _
  refine .bind (quiet_view _) ?_
  intro streams
  cases streams.find? fun x => x.1 = (device, kind) with
  | some x => exact quiet_pure _
  | none =>
    refine .bind (quiet_setDevice device) ?_
    intro _
    refine .bind (quiet_run _ _ rfl) ?_
    intro _
    exact .bind (quiet_modify _) fun _ => quiet_pure _

lemma quiet_awaitUser (owner user : Stream) : Quiet (awaitUser owner user) := by
  refine .bind (quiet_run _ _ rfl) ?_
  intro event
  refine .bind (quiet_order _ _ rfl) ?_
  intro _
  exact .bind (quiet_order _ _ rfl) fun _ => quiet_order _ _ rfl

lemma quiet_freeMemory (target : Nat) (owner : Stream) (users : List Stream) :
    Quiet (freeMemory target owner users) := by
  refine .bind (quiet_setDevice _) ?_
  intro _
  exact .bind (.forEach fun user _ => quiet_awaitUser owner user) fun _ => quiet_order _ _ rfl

lemma quiet_release (b : Buffer) : Quiet (release b) := by
  refine .bind (quiet_onHeap fun _ => ⟨_, rfl⟩) ?_
  intro _
  refine .bind (quiet_view _) ?_
  intro heap
  split
  · refine .bind (Act.Asks.attempt (quiet_freeMemory _ _ _)) ?_
    intro o
    cases o <;> exact .of_done fun _ => ⟨_, rfl⟩
  · exact quiet_pure ()

/-- What a process may do with a platform besides loading kernels and letting go of them. -/
inductive Use where
  | arch (device : Nat)
  | stream (device : Nat) (kind : StreamKind)
  | alloc (dtype : Dtype) (shape : List Nat) (owner : Stream)
  | recordStream (b : Buffer) (s : Stream)
  | write (b : Buffer) (content : Bytes)
  | read (b : Buffer)
  | launch (f : CudaFunction) (geometry : Geometry) (args : List Argument) (s : Stream)
  | occupancy (f : CudaFunction)
  | createEvent (device slot : Nat)
  | recordEvent (e : CudaEvent) (s : Stream)
  | waitEvent (e : CudaEvent) (s : Stream)
  | synchronize (s : Stream)
  | retain (b : Buffer)
  | release (b : Buffer)
  | destroyEvent (e : CudaEvent)
  | wakeDevice (device : Nat)

def discard (m : CudaAct α) : CudaAct Unit := m.bind fun _ => pure ()

/-- Do it; what it gives is of no interest here. -/
def Use.run (devices : Nat) : Use → CudaAct Unit
  | .arch device => discard ((platform devices).arch device)
  | .stream device kind => discard ((platform devices).stream device kind)
  | .alloc dtype shape owner => discard ((platform devices).alloc dtype shape owner)
  | .recordStream b s => (platform devices).recordStream b s
  | .write b content => (platform devices).write b content
  | .read b => discard ((platform devices).read b)
  | .launch f geometry args s => (platform devices).launch f geometry args s
  | .occupancy f => discard ((platform devices).occupancy f)
  | .createEvent device slot => discard ((platform devices).createEvent device slot)
  | .recordEvent e s => (platform devices).recordEvent e s
  | .waitEvent e s => (platform devices).waitEvent e s
  | .synchronize s => (platform devices).synchronize s
  | .retain b => (platform devices).retain b
  | .release b => (platform devices).release b
  | .destroyEvent e => (platform devices).destroyEvent e
  | .wakeDevice device => Cuda.wakeDevice devices device

lemma quiet_discard {m : CudaAct α} (hm : Quiet m) : Quiet (discard m) :=
  .bind hm fun _ => quiet_pure ()

/-- No use of a platform loads a module or unloads one. -/
lemma quiet_use (u : Use) : Quiet (u.run devices) := by
  cases u with
  | arch device =>
    refine quiet_discard (.bind (quiet_ensure _ _) ?_)
    intro _
    refine .bind (quiet_run _ _ rfl) ?_
    intro major
    exact .bind (quiet_run _ _ rfl) fun _ => quiet_pure _
  | stream device kind => exact quiet_discard (quiet_stream devices device kind)
  | alloc dtype shape owner =>
    refine quiet_discard (.bind (quiet_ensure _ _) ?_)
    intro _
    refine .bind (quiet_ofOutcome _) ?_
    intro size
    refine .bind (quiet_setDevice _) ?_
    intro _
    refine .bind (quiet_run _ _ rfl) ?_
    intro target
    exact quiet_onHeap fun _ => ⟨_, rfl⟩
  | recordStream b s => exact quiet_onHeap fun _ => ⟨_, rfl⟩
  | write b content =>
    refine .bind (quiet_address b) ?_
    intro target
    refine .bind (quiet_ofOutcome _) ?_
    intro size
    refine .bind (quiet_ensure _ _) ?_
    intro _
    exact .bind (quiet_synchronizeUsers b) fun _ => quiet_order _ _ rfl
  | read b =>
    refine quiet_discard (.bind (quiet_address b) ?_)
    intro source
    refine .bind (quiet_synchronizeUsers b) ?_
    intro _
    exact .bind (quiet_ofOutcome _) fun _ => quiet_run _ _ rfl
  | launch f geometry args s =>
    refine .bind (quiet_slots args) ?_
    intro params
    exact .bind (quiet_setDevice _) fun _ => quiet_order _ _ rfl
  | occupancy f =>
    refine quiet_discard (.bind (quiet_setDevice _) ?_)
    intro _
    exact .bind (quiet_run _ _ rfl) fun _ => quiet_pure _
  | createEvent device slot =>
    refine quiet_discard (.bind (quiet_ensure _ _) ?_)
    intro _
    refine .bind (quiet_setDevice _) ?_
    intro _
    exact .bind (quiet_run _ _ rfl) fun _ => quiet_pure _
  | recordEvent e s => exact .bind (quiet_setDevice _) fun _ => quiet_order _ _ rfl
  | waitEvent e s => exact .bind (quiet_setDevice _) fun _ => quiet_order _ _ rfl
  | synchronize s => exact quiet_synchronize s
  | retain b => exact quiet_onHeap fun _ => ⟨_, rfl⟩
  | release b => exact quiet_release b
  | destroyEvent e =>
    refine .bind (Act.Asks.attempt (quiet_setDevice _)) ?_
    intro o
    cases o with
    | ok _ => exact .bind (.request _) fun _ => quiet_pure ()
    | error e => exact quiet_pure ()
    | fault w => exact quiet_pure ()
  | wakeDevice device =>
    refine .bind (quiet_ensure _ _) ?_
    intro _
    refine .bind (quiet_setDevice _) ?_
    intro _
    refine .bind (quiet_run _ _ rfl) ?_
    intro probe
    refine .bind (quiet_run _ _ rfl) ?_
    intro _
    exact quiet_order _ _ rfl

/-- How a load goes, by what becomes of its module. -/
inductive Loads (device : Nat) (entry : String) :
    List Machine.Reply → Outcome DeviceError CudaFunction → Prop where
  /-- It fails before a module is loaded. -/
  | refused {said : List Machine.Reply} (e : DeviceError) (hloaded : loaded said = [])
      (hunloaded : unloaded said = []) : Loads device entry said (.error e)
  /-- The name cannot be passed to the driver, and the module stays. -/
  | nameless {said : List Machine.Reply} (handle : Nat) (hnul : '\x00' ∈ entry.toList)
      (hloaded : loaded said = [handle]) (hunloaded : unloaded said = []) :
      Loads device entry said (.error (.invalidArguments entry .nulInEntry))
  /-- The driver does not find the kernel, and the module is unloaded again. -/
  | missing {said : List Machine.Reply} (handle : Nat) (code : Int) (message : String)
      (hnul : '\x00' ∉ entry.toList) (hcode : code ≠ 0) (hloaded : loaded said = [handle])
      (hunloaded : unloaded said = [handle]) :
      Loads device entry said (.error (.driver s!"cuModuleGetFunction({entry})" code message))
  /-- The module is the kernel's. -/
  | done {said : List Machine.Reply} (f : CudaFunction) (hnul : '\x00' ∉ entry.toList)
      (hdevice : f.device = device) (hentry : f.entry = entry) (hloaded : loaded said = [f.loaded])
      (hunloaded : unloaded said = []) : Loads device entry said (.ok f)

/-- The call that looks for the kernel has returned a code. The module is unloaded exactly if it is
not the code of success. -/
lemma tells_orElseUnload (handle : Nat) (op : String) (code : Int) (s : CudaState) :
    ((check .driver op code).orElseClean do
      let _ ← Machine.call (.moduleUnload handle)
      pure ()).Tells s fun replies o _ =>
        (code = 0 ∧ replies = [] ∧ o = .ok ()) ∨
          (code ≠ 0 ∧ loaded replies = [] ∧ unloaded replies = [handle] ∧
            ∃ message, o = .error (.driver op code message)) := by
  refine .orElseClean (tells_check .driver op code s) ?_ ?_
  · rintro replies a s' (h | ⟨-, text, -, ho⟩)
    · exact .inl h
    · cases ho
  · rintro first o s' (⟨-, -, rfl⟩ | ⟨hcode, text, rfl, rfl⟩) hfailed
    · exact absurd rfl (hfailed ())
    · refine Act.Tells.ask ?_
      intro _
      exact .of_done rfl (.inr ⟨hcode, rfl, rfl, _, rfl⟩)

/-- What a load does once it has the module: only a kernel that is found keeps it. -/
lemma tells_find (device handle : Nat) (entry : String) (s : CudaState) :
    (do
      Act.ensure ('\x00' ∉ entry.toList) (.invalidArguments entry .nulInEntry)
      let found ← Machine.call (.moduleFunction handle entry)
      (check .driver s!"cuModuleGetFunction({entry})" found.1).orElseClean do
        let _ ← Machine.call (.moduleUnload handle)
        pure ()
      pure ⟨found.2, handle, device, entry⟩ : CudaAct CudaFunction).Tells s fun rest o _ =>
        ∀ first, loaded first = [handle] → unloaded first = [] →
          Loads device entry (first ++ rest) o := by
  by_cases hnul : '\x00' ∈ entry.toList
  · refine .of_done (Act.bind_error (Act.ensure_error (fun h => h hnul) _ s)) ?_
    intro first hloaded hunloaded
    rw [List.append_nil]
    exact .nameless handle hnul hloaded hunloaded
  refine .step (Act.ensure_done hnul _ s) ?_
  refine Act.Tells.ask ?_
  rintro ⟨code, found⟩
  refine Act.Tells.bind (tells_orElseUnload handle _ code s) ?_ ?_ ?_
  · rintro _ _ s' (⟨-, rfl, -⟩ | ⟨-, -, -, message, ho⟩)
    · refine .of_done rfl ?_
      intro first hloaded hunloaded
      refine .done _ hnul rfl rfl ?_ ?_
      · rw [loaded_append, hloaded]
        rfl
      · rw [unloaded_append, hunloaded]
        rfl
    · cases ho
  · rintro rest e _ (⟨-, -, ho⟩ | ⟨hcode, hloaded, hunloaded, message, ho⟩) first hfirst hfirst'
    · cases ho
    · cases ho
      refine .missing handle code message hnul hcode ?_ ?_
      · rw [loaded_append, hfirst]
        exact congrArg ([handle] ++ ·) hloaded
      · rw [unloaded_append, hfirst']
        exact hunloaded
  · rintro rest w _ (⟨-, -, ho⟩ | ⟨-, -, -, message, ho⟩)
    · cases ho
    · cases ho

/-- How it goes to make a device the current one. -/
inductive Selects (device : Nat) : List Machine.Reply → Outcome DeviceError Unit → Prop where
  | done {said : List Machine.Reply} (h : Selected device said) (hloaded : loaded said = [])
      (hunloaded : unloaded said = []) : Selects device said (.ok ())
  | failed {said : List Machine.Reply} (e : DeviceError) (h : ¬ Selected device said)
      (hloaded : loaded said = []) (hunloaded : unloaded said = []) :
      Selects device said (.error e)

lemma tells_setDevice (device : Nat) (s : CudaState) :
    (setDevice device).Tells s fun said o _ => Selects device said o := by
  refine (tells_order .runtime _ (.setDevice (Word.toSigned32 device)) s).mono ?_
  rintro said _ _ ⟨o, hgoes, rfl⟩
  cases hgoes with
  | done v =>
    refine .done ?_ rfl rfl
    simp [Selected, selected?]
  | failed hcode v text =>
    refine .failed _ ?_ rfl rfl
    simp [Selected, selected?, hcode]

/-- Once the image is known to the driver, it is loaded on the device. -/
lemma tells_loadBytes (device : Nat) (content : Bytes) (entry : String) (launchBound : Nat)
    (s : CudaState) :
    (do
      setDevice device
      let handle : Nat ← run .driver "cuModuleLoadDataEx"
        (.moduleLoad content (loadOptions launchBound))
      Act.ensure ('\x00' ∉ entry.toList) (.invalidArguments entry .nulInEntry)
      let found ← Machine.call (.moduleFunction handle entry)
      (check .driver s!"cuModuleGetFunction({entry})" found.1).orElseClean do
        let _ ← Machine.call (.moduleUnload handle)
        pure ()
      pure ⟨found.2, handle, device, entry⟩ : CudaAct CudaFunction).Tells s fun said o _ =>
        Loads device entry said o := by
  refine Act.Tells.bind (tells_setDevice device s) ?_ ?_ ?_
  · intro first _ s' hselects
    obtain ⟨-, hfirst, hfirst'⟩ : Selected device first ∧ loaded first = [] ∧
        unloaded first = [] := by
      cases hselects with
      | done h hloaded hunloaded => exact ⟨h, hloaded, hunloaded⟩
    refine tells_run_bind ?_ ?_
    · intro handle s''
      refine (tells_find device handle entry s'').mono ?_
      intro rest o _ hfind
      rw [← List.singleton_append, ← List.append_assoc]
      refine hfind _ ?_ ?_
      · rw [loaded_append, hfirst]
        rfl
      · rw [unloaded_append, hfirst']
        rfl
    · intro code v text _ hcode
      refine .refused _ ?_ ?_
      · rw [loaded_append, hfirst]
        simp [loaded, loaded?, hcode]
      · rw [unloaded_append, hfirst']
        rfl
  · intro said e _ hselects
    cases hselects with
    | failed _ _ hloaded hunloaded => exact .refused e hloaded hunloaded
  · intro said w _ hselects
    cases hselects

/-- Whatever the vendor answers, a load goes in one of the four ways. -/
lemma tells_load (devices device : Nat) (image : Image) (entry : String) (launchBound : Nat)
    (s : CudaState) :
    (load devices device image entry launchBound).Tells s fun said o _ =>
      Loads device entry said o := by
  by_cases hdevice : device < devices
  · refine .step (Act.ensure_done hdevice _ s) ?_
    cases image with
    | binary content => exact .step rfl (tells_loadBytes device _ entry launchBound s)
    | ptx text => exact .step rfl (tells_loadBytes device _ entry launchBound s)
    | host exported => exact .of_done rfl (.refused _ rfl rfl)
  · exact .of_done (Act.bind_error (Act.ensure_error hdevice _ s)) (.refused _ rfl rfl)

/-- How it goes when a kernel goes away, by what becomes of its module. -/
inductive Drops (f : CudaFunction) : List Machine.Reply → Outcome DeviceError Unit → Prop where
  /-- The module is unloaded. -/
  | done {said : List Machine.Reply} (h : Selected f.device said) (hloaded : loaded said = [])
      (hunloaded : unloaded said = [f.loaded]) : Drops f said (.ok ())
  /-- The device cannot be selected, and the module stays. -/
  | left {said : List Machine.Reply} (h : ¬ Selected f.device said) (hloaded : loaded said = [])
      (hunloaded : unloaded said = []) : Drops f said (.ok ())

/-- Whatever the vendor answers, the module of a kernel that goes away is unloaded, by one call, if
the device of the kernel can be selected. -/
lemma tells_unload (f : CudaFunction) (s : CudaState) :
    (unload f).Tells s fun said o _ => Drops f said o := by
  refine Act.Tells.attempt_bind (tells_setDevice f.device s) ?_
  intro first o s' hselects
  cases hselects with
  | done hselected hloaded hunloaded =>
    refine Act.Tells.ask ?_
    rintro ⟨code, v⟩
    have hdrops :
        Drops f (first ++ [⟨.call (.moduleUnload f.loaded), (code, v)⟩]) (.ok ()) := by
      refine .done ?_ ?_ ?_
      · rw [Selected, List.filterMap_append]
        exact List.mem_append_left _ hselected
      · rw [loaded_append, hloaded]
        rfl
      · rw [unloaded_append, hunloaded]
        rfl
    -- a code other than success is only recorded
    by_cases hcode : code = 0
    · simp only [if_pos hcode]
      exact .of_done rfl hdrops
    · simp only [if_neg hcode]
      exact .of_done rfl hdrops
  | failed e hselected hloaded hunloaded =>
    refine .of_done rfl ?_
    rw [List.append_nil]
    exact .left hselected hloaded hunloaded

/-- What a process has of modules that were loaded and not unloaded. -/
structure Holdings where
  /-- Kernels that were loaded and have not gone away. -/
  kernels : List CudaFunction
  /-- Modules of loads whose kernel has a name that cannot be passed to the driver. -/
  nameless : List Nat
  /-- Modules of kernels that went away while their device could not be selected. -/
  left : List Nat

namespace Holdings

/-- Nothing was loaded so far. -/
def empty : Holdings := ⟨[], [], []⟩

def afterLoad (w : Holdings) (entry : String) (said : List Machine.Reply) :
    Outcome DeviceError CudaFunction → Holdings
  | .ok f => { w with kernels := w.kernels ++ [f] }
  | _ =>
    if '\x00' ∈ entry.toList then { w with nameless := w.nameless ++ loaded said } else w

/-- The holdings after a kernel went away. -/
def afterDrop (w : Holdings) (f : CudaFunction) (said : List Machine.Reply) : Holdings :=
  { w with
    kernels := w.kernels.erase f
    left := if Selected f.device said then w.left else w.left ++ [f.loaded] }

def held (w : Holdings) : List Nat := w.kernels.map CudaFunction.loaded

def modules (w : Holdings) : List Nat := w.held ++ (w.nameless ++ w.left)

end Holdings

/-- All that a process has said with the vendor, what it has then, and the state of its platform.
It loads kernels, lets go of those that it has, and does anything else with the platform; each of
these can fail. -/
inductive Attains (devices : Nat) : List Machine.Reply → Holdings → CudaState → Prop where
  | start (s : CudaState) : Attains devices [] .empty s
  | load {replies said : List Machine.Reply} {w : Holdings} {s s' : CudaState}
      {o : Outcome DeviceError CudaFunction} (device : Nat) (image : Image) (entry : String)
      (launchBound : Nat) (h : Attains devices replies w s)
      (hend : (load devices device image entry launchBound s).Converses said (o, s')) :
      Attains devices (replies ++ said) (w.afterLoad entry said o) s'
  | drop {replies said : List Machine.Reply} {w : Holdings} {s s' : CudaState}
      {o : Outcome DeviceError Unit} (f : CudaFunction) (hf : f ∈ w.kernels)
      (h : Attains devices replies w s) (hend : (unload f s).Converses said (o, s')) :
      Attains devices (replies ++ said) (w.afterDrop f said) s'
  | use {replies said : List Machine.Reply} {w : Holdings} {s s' : CudaState}
      {o : Outcome DeviceError Unit} (u : Use) (h : Attains devices replies w s)
      (hend : (u.run devices s).Converses said (o, s')) : Attains devices (replies ++ said) w s'

/-- Every module that was loaded was unloaded or is still held, as often as it was loaded. -/
def Balanced (replies : List Machine.Reply) (w : Holdings) : Prop :=
  ∀ m, (loaded replies).count m = (unloaded replies).count m + w.modules.count m

variable {w : Holdings}

lemma Balanced.load {o : Outcome DeviceError CudaFunction} (h : Balanced replies w)
    (hload : Loads device entry said o) :
    Balanced (replies ++ said) (w.afterLoad entry said o) := by
  intro m
  have hm := h m
  rw [loaded_append, unloaded_append, List.count_append, List.count_append]
  cases hload with
  | refused e hloaded hunloaded =>
    have hsame : w.afterLoad entry said (.error e) = w := by
      simp [Holdings.afterLoad, hloaded]
    rw [hsame, hloaded, hunloaded]
    simpa using hm
  | nameless handle hnul hloaded hunloaded =>
    simp only [Holdings.afterLoad, if_pos hnul, hloaded, hunloaded, Holdings.modules,
      Holdings.held, List.count_append, List.count_nil] at hm ⊢
    omega
  | missing handle code message hnul hcode hloaded hunloaded =>
    simp only [Holdings.afterLoad, if_neg hnul, hloaded, hunloaded]
    omega
  | done f hnul hdevice hentry hloaded hunloaded =>
    simp only [Holdings.afterLoad, hloaded, hunloaded, Holdings.modules, Holdings.held,
      List.map_append, List.map_cons, List.map_nil, List.count_append, List.count_nil] at hm ⊢
    omega

lemma Balanced.drop {o : Outcome DeviceError Unit} (h : Balanced replies w)
    (hf : f ∈ w.kernels) (hdrop : Drops f said o) :
    Balanced (replies ++ said) (w.afterDrop f said) := by
  intro m
  have hm := h m
  have hkernels : w.held.count m =
      [f.loaded].count m + ((w.kernels.erase f).map CudaFunction.loaded).count m := by
    have hperm := (List.perm_cons_erase hf).map CudaFunction.loaded
    rw [Holdings.held, hperm.count_eq, List.map_cons, ← List.count_append]
    rfl
  rw [loaded_append, unloaded_append, List.count_append, List.count_append]
  cases hdrop with
  | done hselected hloaded hunloaded =>
    simp only [Holdings.afterDrop, if_pos hselected, hloaded, hunloaded, Holdings.modules,
      Holdings.held, List.count_append, List.count_nil] at hm hkernels ⊢
    omega
  | left hselected hloaded hunloaded =>
    simp only [Holdings.afterDrop, if_neg hselected, hloaded, hunloaded, Holdings.modules,
      Holdings.held, List.count_append, List.count_nil] at hm hkernels ⊢
    omega

/-- The books of a process are balanced at every time. -/
lemma Attains.balanced (h : Attains devices replies w s) : Balanced replies w := by
  induction h with
  | start s =>
    intro m
    rfl
  | load device image entry launchBound _ hend ih =>
    exact ih.load (tells_load _ _ _ _ _ _ _ _ _ hend)
  | drop f hf _ hend ih => exact ih.drop hf (tells_unload _ _ _ _ _ hend)
  | use u _ hend ih =>
    intro m
    obtain ⟨hloaded, hunloaded⟩ := tells_nothing (quiet_use u) _ _ _ _ hend
    rw [loaded_append, unloaded_append, hloaded, hunloaded, List.append_nil, List.append_nil]
    exact ih m

/-- Where the modules of a process are, and what becomes of them by whatever it does next. -/
structure Custody (devices : Nat) (replies : List Machine.Reply) (w : Holdings) (s : CudaState) :
    Prop where
  /-- A load that fails leaves no module loaded, unless the kernel's name cannot be passed to the
  driver; one that succeeds unloads nothing. -/
  loads : ∀ (device : Nat) (image : Image) (entry : String) (launchBound : Nat),
    (load devices device image entry launchBound).Tells s fun said o _ => Loads device entry said o
  /-- A kernel that goes away takes its module with it if its device can be selected. -/
  drops : ∀ f, (unload f).Tells s fun said o _ => Drops f said o
  /-- Nothing else loads or unloads a module. -/
  uses : ∀ u : Use, (u.run devices).Tells s fun said _ _ => loaded said = [] ∧ unloaded said = []
  /-- Every module that was loaded is in one place. -/
  balanced : Balanced replies w
  /-- As long as a kernel is held, its module is not unloaded. -/
  held : ∀ f ∈ w.kernels, (loaded replies).count f.loaded = 1 → f.loaded ∉ unloaded replies
  /-- A module of which nothing is left was unloaded once. -/
  gone : ∀ m ∉ w.modules, (loaded replies).count m = 1 → (unloaded replies).count m = 1

/-- At any time of any process, whatever the vendor answers, modules are unloaded once, when their
load fails or their kernel goes away, and not before. What is left behind are modules of kernels
whose name cannot be passed to the driver, and of kernels whose device could not be selected. -/
theorem modules_in_custody (h : Attains devices replies w s) : Custody devices replies w s where
  loads device image entry launchBound := tells_load devices device image entry launchBound s
  drops f := tells_unload f s
  uses u := tells_nothing (quiet_use u) s
  balanced := h.balanced
  held f hf hcount := by
    have hm := h.balanced f.loaded
    have hheld : 0 < w.modules.count f.loaded := by
      refine List.count_pos_iff.2 (List.mem_append_left _ ?_)
      exact List.mem_map_of_mem hf
    rw [← List.count_eq_zero]
    omega
  gone m hm hcount := by
    have hbalanced := h.balanced m
    rw [List.count_eq_zero.2 hm] at hbalanced
    omega

/-- A kernel that was found in module 7 of device 0. -/
abbrev seventh : CudaFunction := ⟨9, 7, 0, "k"⟩

def loading : List Machine.Reply :=
  [⟨.call (.setDevice 0), ((0 : Int), (0 : Nat))⟩,
    ⟨.call (.moduleLoad [] (loadOptions 1024)), ((0 : Int), (7 : Nat))⟩,
    ⟨.call (.moduleFunction 7 "k"), ((0 : Int), (9 : Nat))⟩]

def looking : List Machine.Reply :=
  [⟨.call (.setDevice 0), ((0 : Int), (0 : Nat))⟩,
    ⟨.call (.occupancy 9 0 0), ((0 : Int), ((1 : Int), (1 : Int)))⟩]

def dropping : List Machine.Reply :=
  [⟨.call (.setDevice 0), ((0 : Int), (0 : Nat))⟩,
    ⟨.call (.moduleUnload 7), ((0 : Int), (0 : Nat))⟩]

/-- A process that loads the kernel, looks at it, and lets go of it. -/
lemma attains_dropped :
    Attains 1 ([] ++ loading ++ looking) ⟨[seventh], [], []⟩ .empty ∧
      Attains 1 ([] ++ loading ++ looking ++ dropping) ⟨[], [], []⟩ .empty := by
  have hload : (load 1 0 (.binary []) "k" 1024 .empty).Converses loading (.ok seventh, .empty) := by
    refine .ask _ ?_
    refine .ask _ ?_
    refine .ask _ ?_
    exact .done _
  have hlook : ((Use.occupancy seventh).run 1 .empty).Converses looking (.ok (), .empty) :=
    .ask _ (.ask _ (.done _))
  have hdrop : (unload seventh .empty).Converses dropping (.ok (), .empty) :=
    .ask _ (.ask _ (.done _))
  have hlooked := (Attains.start .empty |>.load 0 _ "k" 1024 hload).use _ hlook
  exact ⟨hlooked, hlooked.drop seventh List.mem_cons_self hdrop⟩

/-- As long as the kernel is held, module 7 is not unloaded; then it is, by one call. -/
theorem modules_in_custody_one_kernel :
    Attains 1 ([] ++ loading ++ looking) ⟨[seventh], [], []⟩ .empty ∧
      7 ∉ unloaded ([] ++ loading ++ looking) ∧
      Attains 1 ([] ++ loading ++ looking ++ dropping) ⟨[], [], []⟩ .empty ∧
      (unloaded ([] ++ loading ++ looking ++ dropping)).count 7 = 1 :=
  ⟨attains_dropped.1, (modules_in_custody attains_dropped.1).held seventh List.mem_cons_self rfl,
    attains_dropped.2, (modules_in_custody attains_dropped.2).gone 7 List.not_mem_nil rfl⟩

/-- A load that fails because of the kernel's name leaves its module loaded. -/
theorem load_leaves_module :
    ∃ replies e s', (load 1 0 (.binary []) "k\x00" 1024 .empty).Converses replies (.error e, s') ∧
      loaded replies = [7] ∧ unloaded replies = [] :=
  ⟨loading.take 2, _, _, .ask _ (.ask _ (.done _)), rfl, rfl⟩

end Cuda

end ExpertExchange
