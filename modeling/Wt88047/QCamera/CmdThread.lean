import Mathlib.Data.List.Basic

/-! `QCameraCmdThread`: the commands of a thread and the semaphore it waits on. -/

namespace Wt88047.CmdThread

/-- `camera_cmd_type_t` -/
inductive Cmd
  | none
  | startDataProc
  | stopDataProc
  | doNextJob
  | exit
  deriving DecidableEq

/-- The outcome of `sendCmd`: no memory for the command; no memory for its node in the queue, which
is not noticed; or the command is queued. -/
inductive Send
  | noMem
  | lost
  | sent
  deriving DecidableEq

/-- `cmd_queue` and `cmd_sem`. -/
structure Commands where
  queue : List Cmd := []
  sem : Nat := 0
  deriving DecidableEq

namespace Commands

/-- `sendCmd` up to `cam_sem_post`: a command with priority goes to the head of the queue. -/
def put (c : Cmd) (priority : Bool) (o : Send) (q : Commands) : Commands :=
  match o with
  | .sent => { q with queue := if priority then c :: q.queue else q.queue ++ [c] }
  | _ => q

def post (q : Commands) : Commands := { q with sem := q.sem + 1 }

def sendCmd (c : Cmd) (priority : Bool) (o : Send) (q : Commands) : Commands :=
  if o = .noMem then q else (q.put c priority o).post

def wait (q : Commands) : Option Commands :=
  if 0 < q.sem then some { q with sem := q.sem - 1 } else none

def getCmd (q : Commands) : Cmd × Commands :=
  match q.queue with
  | [] => (.none, q)
  | c :: rest => (c, { q with queue := rest })

end Commands

end Wt88047.CmdThread
