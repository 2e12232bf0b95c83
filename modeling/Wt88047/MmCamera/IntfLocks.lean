import Wt88047.Lib.Locks
import Wt88047.MmCamera.CameraOpen

/-! The locks that the entry points of the camera interface take and give back: `g_intf_lock` in the
entry point, `cam_lock` of the camera it finds, which the operation behind it gives back, and
`ch_lock`, which an operation on a channel takes instead and the channel's state machine gives back.
A camera is known by its index. -/

namespace Wt88047.Intf

/-- `handler` is `g_handler_lock`, `cb`, `msg` and `evt` are the other locks of a camera object. -/
inductive Lock
  | intf
  | handler
  | cam (o : Nat)
  | ch (o i : Nat)
  | cb (o : Nat)
  | msg (o : Nat)
  | evt (o : Nat)
  deriving DecidableEq

abbrev Trace := List (Locks.Op Lock)

structure CameraObj where
  myHdl : Nat
  refCount : Int
  ch : Nat → Nat × Bool

/-- `camObj` is `g_cam_ctrl.cam_obj` and `history` is `g_handler_history_count`. -/
structure World where
  camObj : Nat → Option CameraObj
  history : Nat

def channelMax : Nat := 16

def getChannelByHandler (c : CameraObj) (handler : Nat) : Option Nat :=
  (List.range channelMax).find? fun i => handler == (c.ch i).1

/-! The operations on a camera, called with its `cam_lock` held. -/

/-- `mm_camera_util_sendmsg`; `sent` tells whether the message went out, so that an answer is waited
for. -/
def utilSendmsg (o : Nat) (sent : Bool) : Trace :=
  .lock (.msg o) :: ((if sent then [.lock (.evt o), .unlock (.evt o)] else []) ++
    [.unlock (.msg o)])

def utilGenerateHandler : Trace := [.lock .handler, .unlock .handler]

inductive Act
  | sendmsg (sent : Bool)
  | generateHandler

def Act.trace (o : Nat) : Act → Trace
  | .sendmsg sent => utilSendmsg o sent
  | .generateHandler => utilGenerateHandler

structure FsmRun where
  acts : List Act
  rc : Int

def fsmFn (o i : Nat) (r : FsmRun) : Trace × Int :=
  (r.acts.flatMap (Act.trace o) ++ [.unlock (.ch o i)], r.rc)

def channelCall (failure : Int) (chId : Nat) (r : FsmRun) (o : Nat) (c : CameraObj) : Trace × Int :=
  match getChannelByHandler c chId with
  | some i => ([.lock (.ch o i), .unlock (.cam o)] ++ (fsmFn o i r).1, (fsmFn o i r).2)
  | none => ([.unlock (.cam o)], failure)

def getQueuedBufCount := channelCall (-1)
def getBundleInfo := channelCall (-1)
def addStream := channelCall 0
def delStream := channelCall (-1)
def configStream := channelCall (-1)
def startChannel := channelCall (-1)
def stopChannel := channelCall 0
def requestSuperBuf := channelCall (-1)
def cancelSuperBufRequest := channelCall (-1)
def flushSuperBufQueue := channelCall (-1)
def startZslSnapshotCh := channelCall (-1)
def stopZslSnapshotCh := channelCall (-1)
def configChannelNotify := channelCall (-1)
def setStreamParms := channelCall (-1)
def getStreamParms := channelCall (-1)
def mapStreamBuf := channelCall (-1)
def unmapStreamBuf := channelCall (-1)

def delChannel (chId : Nat) (r : FsmRun) (o : Nat) (c : CameraObj) : Trace × Int :=
  match getChannelByHandler c chId with
  | some i =>
    ([.lock (.ch o i), .unlock (.cam o)] ++ (fsmFn o i r).1 ++ [.destroy (.ch o i)], (fsmFn o i r).2)
  | none => ([.unlock (.cam o)], -1)

/-- The stream of channel `chId` is linked into channel `linkedChId`. -/
def linkStream (chId linkedChId : Nat) (r : FsmRun) (o : Nat) (c : CameraObj) : Trace × Int :=
  match getChannelByHandler c linkedChId, getChannelByHandler c chId with
  | some i, some _ => ([.lock (.ch o i), .unlock (.cam o)] ++ (fsmFn o i r).1, (fsmFn o i r).2)
  | _, _ => ([.unlock (.cam o)], 0)

/-- `mm_camera_qbuf` takes no `ch_lock`; `rc` is the answer of `mm_channel_qbuf`. -/
def qbuf (chId : Nat) (rc : Int) (o : Nat) (c : CameraObj) : Trace × Int :=
  match getChannelByHandler c chId with
  | some _ => ([.unlock (.cam o)], rc)
  | none => ([.unlock (.cam o)], -1)

def channelAdvancedCapture (type : Int) (chId : Nat) (r : FsmRun) (o : Nat) (c : CameraObj) :
    Trace × Int :=
  match getChannelByHandler c chId with
  | some i =>
    -- the default case of the switch does not reach the state machine
    if 0 ≤ type ∧ type ≤ 4 then
      ([.lock (.ch o i), .unlock (.cam o)] ++ (fsmFn o i r).1, (fsmFn o i r).2)
    else ([.lock (.ch o i), .unlock (.cam o)], -1)
  | none => ([.unlock (.cam o)], -1)

def addChannel (history : Nat) (o : Nat) (c : CameraObj) : Trace × Int :=
  match (List.range channelMax).find? fun i => (c.ch i).2 = false with
  | some i => (utilGenerateHandler ++ [.unlock (.cam o)], (Camera.generateHandler i history).1)
  | none => ([.unlock (.cam o)], 0)

def registerEventNotify (rc : Int) (o : Nat) (_ : CameraObj) : Trace × Int :=
  ([.lock (.cb o), .unlock (.cb o), .unlock (.cam o)], rc)

def queryCapability (ioctl : Int) (o : Nat) (_ : CameraObj) : Trace × Int :=
  ([.unlock (.cam o)], ioctl)

/-- `mm_camera_util_s_ctrl` and `mm_camera_util_g_ctrl`. -/
def utilCtrl (ioctl : Int) : Int := if ioctl ≥ 0 then 0 else -1

/-- `mm_camera_set_parms` and `mm_camera_get_parms`; `parms` tells that the pointer is not null. -/
def accessParms (parms : Bool) (ioctl : Int) (o : Nat) (_ : CameraObj) : Trace × Int :=
  ([.unlock (.cam o)], if parms then utilCtrl ioctl else -1)

def control (ioctl : Int) (o : Nat) (_ : CameraObj) : Trace × Int :=
  ([.unlock (.cam o)], utilCtrl ioctl)

def setParms := accessParms
def getParms := accessParms
def doAutoFocus := control
def cancelAutoFocus := control
def prepareSnapshot := control

/-- A message for the daemon; `ok` tells whether it answered success. -/
def message (sent ok : Bool) (o : Nat) (_ : CameraObj) : Trace × Int :=
  (utilSendmsg o sent ++ [.unlock (.cam o)], if sent && ok then 0 else -1)

def mapBuf := message
def unmapBuf := message

def close (o : Nat) : Trace × Int :=
  ([.destroy (.msg o), .destroy (.cb o), .destroy (.evt o), .unlock (.cam o)], 0)

/-! The entry points. -/

inductive EntryPoint
  | queryCapability (handle : Nat) (ioctl : Int)
  | setParms (handle : Nat) (parms : Bool) (ioctl : Int)
  | getParms (handle : Nat) (parms : Bool) (ioctl : Int)
  | doAutoFocus (handle : Nat) (ioctl : Int)
  | cancelAutoFocus (handle : Nat) (ioctl : Int)
  | prepareSnapshot (handle : Nat) (ioctl : Int)
  | close (handle : Nat)
  | addChannel (handle : Nat)
  | delChannel (handle chId : Nat) (r : FsmRun)
  | getBundleInfo (handle chId : Nat) (r : FsmRun)
  | registerEventNotify (handle : Nat) (rc : Int)
  | qbuf (handle chId : Nat) (rc : Int)
  | getQueuedBufCount (handle chId : Nat) (r : FsmRun)
  | linkStream (handle chId linkedChId : Nat) (r : FsmRun)
  | addStream (handle chId : Nat) (r : FsmRun)
  | delStream (handle chId : Nat) (r : FsmRun)
  | configStream (handle chId : Nat) (r : FsmRun)
  | startChannel (handle chId : Nat) (r : FsmRun)
  | stopChannel (handle chId : Nat) (r : FsmRun)
  | requestSuperBuf (handle chId : Nat) (r : FsmRun)
  | cancelSuperBufRequest (handle chId : Nat) (r : FsmRun)
  | flushSuperBufQueue (handle chId : Nat) (r : FsmRun)
  | startZslSnapshot (handle chId : Nat) (r : FsmRun)
  | stopZslSnapshot (handle chId : Nat) (r : FsmRun)
  | configureNotifyMode (handle chId : Nat) (r : FsmRun)
  | mapBuf (handle : Nat) (sent ok : Bool)
  | unmapBuf (handle : Nat) (sent ok : Bool)
  | setStreamParms (handle chId : Nat) (r : FsmRun)
  | getStreamParms (handle chId : Nat) (r : FsmRun)
  | mapStreamBuf (handle chId : Nat) (r : FsmRun)
  | unmapStreamBuf (handle chId : Nat) (r : FsmRun)
  | processAdvancedCapture (handle : Nat) (type : Int) (chId : Nat) (r : FsmRun)

section

variable (maxNumSensors : Nat)

/-- `mm_camera_util_get_camera_by_handler`: the index and the object. -/
def getCameraByHandler (w : World) (handle : Nat) : Option (Nat × CameraObj) :=
  let idx := Camera.getIndexByHandler handle
  if idx < maxNumSensors then
    (w.camObj idx).bind fun c => if handle = c.myHdl then some (idx, c) else none
  else none

/-- What every entry point but the one that closes a camera does around its operation. -/
def intf (w : World) (handle : Nat) (failure : Int) (op : Nat → CameraObj → Trace × Int) :
    Trace × Int :=
  match getCameraByHandler maxNumSensors w handle with
  | some (o, c) =>
    ([.lock .intf, .lock (.cam o), .unlock .intf] ++ (op o c).1, (op o c).2)
  | none => ([.lock .intf, .unlock .intf], failure)

def intfClose (w : World) (handle : Nat) : Trace × Int :=
  match getCameraByHandler maxNumSensors w handle with
  | some (o, c) =>
    if c.refCount - 1 > 0 then ([.lock .intf, .unlock .intf], 0)
    else
      ([.lock .intf, .lock (.cam o), .unlock .intf] ++ (close o).1 ++ [.destroy (.cam o)],
        (close o).2)
  | none => ([.lock .intf, .unlock .intf], -1)

def EntryPoint.call (w : World) : EntryPoint → Trace × Int
  | .queryCapability h ioctl => intf maxNumSensors w h (-1) (Intf.queryCapability ioctl)
  | .setParms h parms ioctl => intf maxNumSensors w h (-1) (Intf.setParms parms ioctl)
  | .getParms h parms ioctl => intf maxNumSensors w h (-1) (Intf.getParms parms ioctl)
  | .doAutoFocus h ioctl => intf maxNumSensors w h (-1) (Intf.doAutoFocus ioctl)
  | .cancelAutoFocus h ioctl => intf maxNumSensors w h (-1) (Intf.cancelAutoFocus ioctl)
  | .prepareSnapshot h ioctl => intf maxNumSensors w h (-1) (Intf.prepareSnapshot ioctl)
  | .close h => intfClose maxNumSensors w h
  | .addChannel h => intf maxNumSensors w h 0 (Intf.addChannel w.history)
  | .delChannel h chId r => intf maxNumSensors w h (-1) (Intf.delChannel chId r)
  | .getBundleInfo h chId r => intf maxNumSensors w h (-1) (Intf.getBundleInfo chId r)
  | .registerEventNotify h rc => intf maxNumSensors w h (-1) (Intf.registerEventNotify rc)
  | .qbuf h chId rc => intf maxNumSensors w h (-1) (Intf.qbuf chId rc)
  | .getQueuedBufCount h chId r => intf maxNumSensors w h (-1) (Intf.getQueuedBufCount chId r)
  | .linkStream h chId linkedChId r => intf maxNumSensors w h 0 (Intf.linkStream chId linkedChId r)
  | .addStream h chId r => intf maxNumSensors w h 0 (Intf.addStream chId r)
  | .delStream h chId r => intf maxNumSensors w h (-1) (Intf.delStream chId r)
  | .configStream h chId r => intf maxNumSensors w h (-1) (Intf.configStream chId r)
  | .startChannel h chId r => intf maxNumSensors w h (-1) (Intf.startChannel chId r)
  | .stopChannel h chId r => intf maxNumSensors w h (-1) (Intf.stopChannel chId r)
  | .requestSuperBuf h chId r => intf maxNumSensors w h (-1) (Intf.requestSuperBuf chId r)
  | .cancelSuperBufRequest h chId r => intf maxNumSensors w h (-1) (Intf.cancelSuperBufRequest chId r)
  | .flushSuperBufQueue h chId r => intf maxNumSensors w h (-1) (Intf.flushSuperBufQueue chId r)
  | .startZslSnapshot h chId r => intf maxNumSensors w h (-1) (Intf.startZslSnapshotCh chId r)
  | .stopZslSnapshot h chId r => intf maxNumSensors w h (-1) (Intf.stopZslSnapshotCh chId r)
  | .configureNotifyMode h chId r => intf maxNumSensors w h (-1) (Intf.configChannelNotify chId r)
  | .mapBuf h sent ok => intf maxNumSensors w h (-1) (Intf.mapBuf sent ok)
  | .unmapBuf h sent ok => intf maxNumSensors w h (-1) (Intf.unmapBuf sent ok)
  | .setStreamParms h chId r => intf maxNumSensors w h (-1) (Intf.setStreamParms chId r)
  | .getStreamParms h chId r => intf maxNumSensors w h (-1) (Intf.getStreamParms chId r)
  | .mapStreamBuf h chId r => intf maxNumSensors w h (-1) (Intf.mapStreamBuf chId r)
  | .unmapStreamBuf h chId r => intf maxNumSensors w h (-1) (Intf.unmapStreamBuf chId r)
  | .processAdvancedCapture h type chId r =>
    intf maxNumSensors w h (-1) (Intf.channelAdvancedCapture type chId r)

end

/-! `get_num_of_cameras`. -/

inductive Model
  | msmConfig
  | msmCamera
  | other
  deriving DecidableEq

/-- An entity of a media device: the `sensor_init` subdevice with its name, or another one. -/
inductive Entity
  | sensorInit (name : String)
  | other

def Entity.sensorInitName : Entity → Option String
  | .sensorInit name => some name
  | .other => none

/-- A media device; `infoOk` tells that it answers `MEDIA_IOC_DEVICE_INFO`. -/
structure MediaDev where
  infoOk : Bool
  model : Model
  entities : List Entity

/-- What `get_num_of_cameras` meets: the property `vold.decrypt`, the media devices when it looks for
the `sensor_init` node and when it counts the cameras, and what opening that node answers, where no
name is the buffer that nothing was written to. -/
structure Devices where
  decrypt : Bool
  media : List MediaDev
  probed : List MediaDev
  openSubdev : Option String → Int

def subdevName : List MediaDev → Option String → Option String
  | [], name => name
  | d :: ds, name =>
    if d.infoOk then
      subdevName ds (if d.model = .msmConfig then
        (d.entities.findSome? Entity.sensorInitName).or name else name)
    else name

def countCameras : List MediaDev → Nat → Nat
  | [], n => n
  | d :: ds, n =>
    if d.infoOk then countCameras ds (if d.model = .msmCamera then n + 1 else n) else 0

def Devices.sdFd (d : Devices) : Int := d.openSubdev (subdevName d.media none)

def getNumOfCameras (d : Devices) : Trace × Nat :=
  if d.decrypt then ([], 0)
  else if d.sdFd < 0 then ([.lock .intf], 0)
  else ([.lock .intf, .unlock .intf], countCameras d.probed 0 % 256)

open Locks

inductive Call
  | entry (w : World) (e : EntryPoint)
  | getNumOfCameras (d : Devices)

def Call.trace (maxNumSensors : Nat) : Call → Trace
  | .entry w e => (e.call maxNumSensors w).1
  | .getNumOfCameras d => (Intf.getNumOfCameras d).1

/-- The thread takes no lock that it holds, gives back and destroys none that it must not, and
returns with neither `g_intf_lock` nor a `cam_lock`. -/
def HandsBack (ops : Trace) : Prop :=
  ∃ held, Leads [] ops held ∧ Lock.intf ∉ held ∧ ∀ o, Lock.cam o ∉ held

def Clean (ops : Trace) : Prop := Leads [] ops []

def Leaves (op : Nat → CameraObj → Trace × Int) (held : Nat → CameraObj → List Lock) : Prop :=
  ∀ o c, Leads [Lock.cam o] (op o c).1 (held o c)

def Releases (op : Nat → CameraObj → Trace × Int) : Prop := Leaves op fun _ _ => []

theorem releases_unlock {op : Nat → CameraObj → Trace × Int}
    (h : ∀ o c, (op o c).1 = [.unlock (.cam o)]) : Releases op := by
  intro o c
  rw [h]
  exact .unlock (List.mem_singleton_self _) (by rw [List.erase_cons_head]; exact .nil)

theorem utilSendmsg_leads {o : Nat} {held : List Lock} (hm : Lock.msg o ∉ held)
    (he : Lock.evt o ∉ held) (sent : Bool) : Leads held (utilSendmsg o sent) held := by
  have hwait : Leads (Lock.msg o :: held) [.lock (.evt o), .unlock (.evt o)]
      (Lock.msg o :: held) :=
    .bracket (by simpa using he) .nil
  apply Leads.bracket hm
  cases sent
  · exact .nil
  · exact hwait

theorem utilGenerateHandler_leads {held : List Lock} (h : Lock.handler ∉ held) :
    Leads held utilGenerateHandler held := .bracket h .nil

theorem Act.leads {o i : Nat} (a : Act) : Leads [Lock.ch o i] (a.trace o) [Lock.ch o i] := by
  cases a with
  | sendmsg sent => exact utilSendmsg_leads (by simp) (by simp) sent
  | generateHandler => exact utilGenerateHandler_leads (by simp)

theorem fsmFn_leads (o i : Nat) (r : FsmRun) : Leads [Lock.ch o i] (fsmFn o i r).1 [] := by
  have hacts : Leads [Lock.ch o i] (r.acts.flatMap (Act.trace o)) [Lock.ch o i] :=
    .flatMap fun a _ => a.leads
  have hback : Leads [Lock.ch o i] [.unlock (.ch o i)] [] := by
    apply Leads.unlock (List.mem_singleton_self _)
    rw [List.erase_cons_head]
    exact .nil
  exact hacts.append hback

theorem channel_leads (o i : Nat) (r : FsmRun) :
    Leads [Lock.cam o] ([.lock (.ch o i), .unlock (.cam o)] ++ (fsmFn o i r).1) [] :=
  (Leads.handOver (by simp)).append (fsmFn_leads o i r)

theorem unlock_leads (o : Nat) : Leads [Lock.cam o] [.unlock (.cam o)] [] := by
  apply Leads.unlock (List.mem_singleton_self _)
  rw [List.erase_cons_head]
  exact .nil

theorem channelCall_releases (failure : Int) (chId : Nat) (r : FsmRun) :
    Releases (channelCall failure chId r) := by
  intro o c
  unfold channelCall
  cases getChannelByHandler c chId with
  | none => exact unlock_leads o
  | some i => exact channel_leads o i r

theorem delChannel_releases (chId : Nat) (r : FsmRun) : Releases (delChannel chId r) := by
  intro o c
  unfold delChannel
  cases getChannelByHandler c chId with
  | none => exact unlock_leads o
  | some i => exact (channel_leads o i r).append (.destroy (List.not_mem_nil) .nil)

theorem linkStream_releases (chId linkedChId : Nat) (r : FsmRun) :
    Releases (linkStream chId linkedChId r) := by
  intro o c
  unfold linkStream
  cases getChannelByHandler c linkedChId with
  | none => exact unlock_leads o
  | some i =>
    cases getChannelByHandler c chId with
    | none => exact unlock_leads o
    | some j => exact channel_leads o i r

theorem qbuf_releases (chId : Nat) (rc : Int) : Releases (qbuf chId rc) := by
  intro o c
  unfold qbuf
  cases getChannelByHandler c chId with
  | none => exact unlock_leads o
  | some i => exact unlock_leads o

theorem addChannel_releases (history : Nat) : Releases (addChannel history) := by
  intro o c
  unfold addChannel
  split
  · exact (utilGenerateHandler_leads (by simp)).append (unlock_leads o)
  · exact unlock_leads o

theorem registerEventNotify_releases (rc : Int) : Releases (registerEventNotify rc) := by
  intro o c
  have hcb : Leads [Lock.cam o] [.lock (.cb o), .unlock (.cb o)] [Lock.cam o] :=
    .bracket (by simp) .nil
  exact hcb.append (unlock_leads o)

theorem message_releases (sent ok : Bool) : Releases (message sent ok) := fun o _ =>
  (utilSendmsg_leads (by simp) (by simp) sent).append (unlock_leads o)

/-- An advanced capture of a type that the switch does not list keeps the lock of its channel. -/
theorem channelAdvancedCapture_leaves (type : Int) (chId : Nat) (r : FsmRun) :
    Leaves (channelAdvancedCapture type chId r) fun o c =>
      match getChannelByHandler c chId with
      | some i => if 0 ≤ type ∧ type ≤ 4 then [] else [Lock.ch o i]
      | none => [] := by
  intro o c
  dsimp only [channelAdvancedCapture]
  cases getChannelByHandler c chId with
  | none => exact unlock_leads o
  | some i =>
    dsimp only
    split
    · exact channel_leads o i r
    · exact .handOver nofun

theorem close_leads (o : Nat) : Leads [Lock.cam o] (close o).1 [] := by
  apply Leads.destroy (by simp)
  apply Leads.destroy (by simp)
  apply Leads.destroy (by simp)
  exact unlock_leads o

section

variable {maxNumSensors : Nat}

theorem intf_leads (w : World) (handle : Nat) (failure : Int)
    {op : Nat → CameraObj → Trace × Int} {held : Nat → CameraObj → List Lock}
    (h : Leaves op held) :
    (∃ o c, Leads [] (intf maxNumSensors w handle failure op).1 (held o c)) ∨
      Clean (intf maxNumSensors w handle failure op).1 := by
  unfold intf
  cases getCameraByHandler maxNumSensors w handle with
  | none => exact .inr (.bracket List.not_mem_nil .nil)
  | some oc =>
    obtain ⟨o, c⟩ := oc
    have henter : Leads [] [.lock .intf, .lock (.cam o), .unlock .intf] [Lock.cam o] :=
      .lock List.not_mem_nil (.handOver (by simp))
    exact .inl ⟨o, c, henter.append (h o c)⟩

theorem intf_clean (w : World) (handle : Nat) (failure : Int)
    {op : Nat → CameraObj → Trace × Int} (h : Releases op) :
    Clean (intf maxNumSensors w handle failure op).1 := by
  rcases intf_leads w handle failure h with ⟨-, -, hc⟩ | hc
  · exact hc
  · exact hc

theorem intfClose_clean (w : World) (handle : Nat) : Clean (intfClose maxNumSensors w handle).1 := by
  unfold intfClose
  cases getCameraByHandler maxNumSensors w handle with
  | none => exact .bracket List.not_mem_nil .nil
  | some oc =>
    obtain ⟨o, c⟩ := oc
    dsimp only
    split
    · exact .bracket List.not_mem_nil .nil
    · have henter : Leads [] [.lock .intf, .lock (.cam o), .unlock .intf] [Lock.cam o] :=
        .lock List.not_mem_nil (.handOver (by simp))
      exact (henter.append (close_leads o)).append (.destroy List.not_mem_nil .nil)

def EntryPoint.Listed : EntryPoint → Prop
  | .processAdvancedCapture _ type _ _ => 0 ≤ type ∧ type ≤ 4
  | _ => True

theorem EntryPoint.call_clean (w : World) (e : EntryPoint) (h : e.Listed) :
    Clean (e.call maxNumSensors w).1 := by
  cases e with
  | queryCapability | setParms | getParms | doAutoFocus | cancelAutoFocus | prepareSnapshot =>
    exact intf_clean w _ _ (releases_unlock fun _ _ => rfl)
  | close handle => exact intfClose_clean w handle
  | addChannel => exact intf_clean w _ _ (addChannel_releases w.history)
  | delChannel _ chId r => exact intf_clean w _ _ (delChannel_releases chId r)
  | registerEventNotify _ rc => exact intf_clean w _ _ (registerEventNotify_releases rc)
  | qbuf _ chId rc => exact intf_clean w _ _ (qbuf_releases chId rc)
  | linkStream _ chId linkedChId r =>
    exact intf_clean w _ _ (linkStream_releases chId linkedChId r)
  | mapBuf _ sent ok | unmapBuf _ sent ok => exact intf_clean w _ _ (message_releases sent ok)
  | getBundleInfo _ chId r | getQueuedBufCount _ chId r | addStream _ chId r | delStream _ chId r
  | configStream _ chId r | startChannel _ chId r | stopChannel _ chId r
  | requestSuperBuf _ chId r | cancelSuperBufRequest _ chId r | flushSuperBufQueue _ chId r
  | startZslSnapshot _ chId r | stopZslSnapshot _ chId r | configureNotifyMode _ chId r
  | setStreamParms _ chId r | getStreamParms _ chId r | mapStreamBuf _ chId r
  | unmapStreamBuf _ chId r =>
    exact intf_clean w _ _ (channelCall_releases _ chId r)
  | processAdvancedCapture _ type chId r =>
    apply intf_clean w _ _
    intro o c
    have hl := channelAdvancedCapture_leaves type chId r o c
    change 0 ≤ type ∧ type ≤ 4 at h
    simp only [h, and_self, if_true] at hl
    cases hg : getChannelByHandler c chId <;> rw [hg] at hl <;> exact hl

theorem HandsBack.of_clean {ops : Trace} (h : Clean ops) : HandsBack ops :=
  ⟨[], h, List.not_mem_nil, fun _ => List.not_mem_nil⟩

theorem EntryPoint.call_handsBack (w : World) (e : EntryPoint) :
    HandsBack (e.call maxNumSensors w).1 := by
  by_cases hl : e.Listed
  · exact .of_clean (e.call_clean w hl)
  · cases e with
    | processAdvancedCapture handle type chId r =>
      rcases @intf_leads maxNumSensors w handle (-1) _ _
        (channelAdvancedCapture_leaves type chId r) with ⟨o, c, h⟩ | h
      · refine ⟨_, h, ?_, fun p => ?_⟩
        · cases getChannelByHandler c chId <;> dsimp only <;> [skip; split] <;> simp
        · cases getChannelByHandler c chId <;> dsimp only <;> [skip; split] <;> simp
      · exact .of_clean h
    | _ => exact absurd trivial hl

theorem getNumOfCameras_handsBack (d : Devices) :
    HandsBack (getNumOfCameras d).1 ↔ d.decrypt = true ∨ 0 ≤ d.sdFd := by
  unfold getNumOfCameras
  cases hd : d.decrypt with
  | true => exact ⟨fun _ => .inl rfl, fun _ => .of_clean .nil⟩
  | false =>
    by_cases hs : d.sdFd < 0
    · have hkept : Leads [] [.lock Lock.intf] [Lock.intf] := .lock List.not_mem_nil .nil
      constructor
      · rintro ⟨held, h, hi, -⟩
        simp only [Bool.false_eq_true, if_false, hs, if_true] at h
        obtain rfl := hkept.unique h
        exact absurd (List.mem_singleton_self _) hi
      · rintro (h | h)
        · cases h
        · omega
    · have hback : Clean [.lock Lock.intf, .unlock Lock.intf] := .bracket List.not_mem_nil .nil
      simp only [Bool.false_eq_true, if_false, hs]
      exact ⟨fun _ => .inr (by omega), fun _ => .of_clean hback⟩

/-- A call hands its locks back unless it is a count of the cameras that cannot open the
`sensor_init` node. -/
theorem handsBack_iff (c : Call) : HandsBack (c.trace maxNumSensors) ↔
    ∀ d, c = .getNumOfCameras d → d.decrypt = true ∨ 0 ≤ d.sdFd := by
  cases c with
  | entry w e => exact ⟨fun _ => nofun, fun _ => e.call_handsBack w⟩
  | getNumOfCameras d =>
    constructor
    · rintro h d' ⟨⟩
      exact (getNumOfCameras_handsBack d).mp h
    · intro h
      exact (getNumOfCameras_handsBack d).mpr (h d rfl)

/-- Without any media device the node has no name, it cannot be opened, and `g_intf_lock` is kept. -/
theorem getNumOfCameras_keepsLock :
    ¬ ∀ (maxNumSensors : Nat) (c : Call), HandsBack (c.trace maxNumSensors) := by
  intro h
  have hd := (getNumOfCameras_handsBack _).mp (h 0 (.getNumOfCameras ⟨false, [], [], fun _ => -1⟩))
  exact absurd hd (by decide)

end

end Wt88047.Intf
