import Wt88047.MmCamera.ChannelStart
import Wt88047.MmCamera.Superbuf

/-! The bundle of a channel: what `mm_channel_init` writes into it, what a start makes of it, and what a start
that fails leaves for the next one. -/

namespace Wt88047.Stream

/-- `mm_camera_channel_attr_t` -/
structure BundleAttr extends Superbuf.ChannelAttr where
  priority : Nat
  deriving DecidableEq

/-- `mm_channel_bundle_t`, with the queue of superbufs up to its contents; pointers are numbers, the one to
the callback is `none` when null. -/
structure Bundle where
  isActive : Bool
  numStreams : Nat
  attr : BundleAttr
  expectedFrameId : Nat
  expectedFrameIdWithoutLed : Nat
  superBufNotifyCb : Option Nat
  userData : Nat
  deriving DecidableEq

/-- The bundle after `memset`. -/
def Bundle.zero : Bundle := ⟨false, 0, ⟨⟨.burst, 0, 0, 0, 0⟩, 0⟩, 0, 0, none, 0⟩

structure BundleConfig where
  superBufNotifyCb : Option Nat
  userData : Nat
  attr : BundleAttr
  deriving DecidableEq

def Bundle.config (b : Bundle) : BundleConfig := ⟨b.superBufNotifyCb, b.userData, b.attr⟩

/-- A `mm_channel_t` with its bundle and whether its two bundle threads run. -/
structure BundledChannel where
  streams : List Member
  bundle : Bundle
  cmdThread : Bool
  cbThread : Bool

namespace BundledChannel

variable {c : BundledChannel}

def toChannelObj (c : BundledChannel) : ChannelObj :=
  ⟨c.streams, c.bundle.superBufNotifyCb.isSome, c.bundle.isActive⟩

def init (attr : Option BundleAttr) (channelCb : Option Nat) (userdata : Nat) (c : BundledChannel) :
    BundledChannel :=
  { c with
    bundle := { c.bundle with
      superBufNotifyCb := channelCb, userData := userdata, attr := attr.getD c.bundle.attr } }

/-- The setup of `mm_channel_start`, up to the loop over the streams. -/
def setup (c : BundledChannel) : BundledChannel :=
  if c.bundle.superBufNotifyCb.isSome then
    { streams := c.toChannelObj.toStart
      bundle := { c.bundle with
        isActive := true, numStreams := c.streams.length, expectedFrameId := 0, expectedFrameIdWithoutLed := 0 }
      cmdThread := true
      cbThread := true }
  else { c with streams := c.toChannelObj.toStart }

def teardown (c : BundledChannel) : BundledChannel :=
  if c.bundle.isActive then { c with bundle := .zero, cmdThread := false, cbThread := false } else c

def start (c : BundledChannel) : Bool × BundledChannel :=
  match startLoop c.setup.streams with
  | (true, done, left) => (true, { c.setup with streams := done ++ left })
  | (false, done, left) => (false, { c.setup with streams := done.map Member.undo ++ left }.teardown)

def effect (c : BundledChannel) : Bool × Bool × BundleConfig := (c.cmdThread, c.cbThread, c.bundle.config)

@[simp] theorem setup_streams (c : BundledChannel) : c.setup.streams = c.toChannelObj.toStart := by
  unfold setup
  split <;> rfl

@[simp] theorem setup_config (c : BundledChannel) : c.setup.bundle.config = c.bundle.config := by
  unfold setup
  split <;> rfl

theorem setup_isActive (c : BundledChannel) :
    c.setup.bundle.isActive = (c.bundle.superBufNotifyCb.isSome || c.bundle.isActive) := by
  unfold setup
  cases c.bundle.superBufNotifyCb.isSome <;> rfl

theorem start_toChannelObj (c : BundledChannel) :
    (c.start.1, c.start.2.toChannelObj) = channelStart c.toChannelObj := by
  have hcb : c.setup.bundle.superBufNotifyCb = c.bundle.superBufNotifyCb :=
    congrArg BundleConfig.superBufNotifyCb c.setup_config
  have hactive := c.setup_isActive
  unfold start channelStart
  rw [setup_streams]
  rcases startLoop c.toChannelObj.toStart with ⟨ok, done, left⟩
  cases ok with
  | true => simp [toChannelObj, hcb, hactive]
  | false =>
    simp only [teardown]
    split
    · next hon =>
      rw [hactive] at hon
      simp [toChannelObj, Bundle.zero, hon]
    · next hoff =>
      rw [hactive] at hoff
      simp only [Bool.not_eq_true] at hoff
      simp only [Bool.or_eq_false_iff] at hoff
      simp [toChannelObj, hcb, hactive, hoff]

theorem start_effect (h : c.start.1 = true) (hcb : c.bundle.superBufNotifyCb.isSome = true) :
    c.start.2.effect = (true, true, c.bundle.config) := by
  have hconfig := c.setup_config
  unfold start at h ⊢
  rw [setup_streams] at h ⊢
  rcases hloop : startLoop c.toChannelObj.toStart with ⟨ok, done, left⟩
  rw [hloop] at h
  cases ok with
  | false => cases h
  | true =>
    simp only [effect, hconfig]
    simp [setup, hcb]

theorem start_fails (h : c.start.1 = false) (hcb : c.bundle.superBufNotifyCb.isSome = true) :
    c.start.2.bundle = .zero ∧ c.start.2.cmdThread = false ∧ c.start.2.cbThread = false := by
  have hactive := c.setup_isActive
  rw [hcb, Bool.true_or] at hactive
  unfold start at h ⊢
  rw [setup_streams] at h ⊢
  rcases hloop : startLoop c.toChannelObj.toStart with ⟨ok, done, left⟩
  rw [hloop] at h
  cases ok with
  | true => cases h
  | false => simp [teardown, hactive]

theorem start_without_callback (hcb : c.bundle.superBufNotifyCb = none) (hact : c.bundle.isActive = false) :
    c.start.2.bundle = c.bundle ∧ c.start.2.cmdThread = c.cmdThread ∧ c.start.2.cbThread = c.cbThread := by
  have hsetup : c.setup = { c with streams := c.toChannelObj.toStart } := by
    simp [setup, hcb]
  unfold start
  rw [hsetup]
  rcases startLoop c.toChannelObj.toStart with ⟨ok, done, left⟩
  cases ok with
  | true => exact ⟨rfl, rfl, rfl⟩
  | false => simp [teardown, hact]

end BundledChannel

def BundledChannel.withStreams (ms : List Member) (c : BundledChannel) : BundledChannel :=
  { c with streams := ms }

/-- What the caller of a failed `mm_channel_start` may rely on for the next start, on any streams. -/
structure Restartable (c : BundledChannel) : Prop where
  config : c.start.2.bundle.config = c.bundle.config
  effect : ∀ ms, (c.withStreams ms).start.1 = true → (c.start.2.withStreams ms).start.1 = true →
    (c.start.2.withStreams ms).start.2.effect = (c.withStreams ms).start.2.effect

/-- A start that fails with a callback set always loses it, and with it the threads of every later start. -/
theorem failed_start_loses_bundle {c : BundledChannel} (hcb : c.bundle.superBufNotifyCb.isSome = true)
    (hfail : c.start.1 = false) :
    ¬ Restartable c ∧ ∀ ms ms', (c.withStreams ms).start.1 = true →
      (c.withStreams ms).start.2.effect = (true, true, c.bundle.config) ∧
        (c.start.2.withStreams ms').start.2.effect = (false, false, Bundle.zero.config) := by
  obtain ⟨hzero, hcmd, hthread⟩ := BundledChannel.start_fails hfail hcb
  constructor
  · intro h
    have hconfig := h.config
    rw [hzero] at hconfig
    have hnone : c.bundle.superBufNotifyCb = none := (congrArg BundleConfig.superBufNotifyCb hconfig).symm
    rw [hnone] at hcb
    cases hcb
  · intro ms ms' hms
    refine ⟨BundledChannel.start_effect hms hcb, ?_⟩
    have hleft : c.start.2.withStreams ms' = ⟨ms', .zero, false, false⟩ := by
      rw [← hzero, BundledChannel.withStreams, hcmd, hthread]
    rw [hleft]
    have hnext := @BundledChannel.start_without_callback ⟨ms', .zero, false, false⟩ rfl rfl
    simp only [BundledChannel.effect, hnext]

def bundledFailsInStreamOn : BundledChannel :=
  BundledChannel.init (some ⟨⟨.burst, 2, 1, 1, 3⟩, 0⟩) (some 1) 2 ⟨failsInStreamOn.streams, .zero, false, false⟩

theorem failed_start_loses_bundle_stream_on : ¬ Restartable bundledFailsInStreamOn :=
  (failed_start_loses_bundle (c := bundledFailsInStreamOn) rfl rfl).1

theorem failed_start_not_restartable : ¬ ∀ c : BundledChannel,
    (∀ m ∈ c.streams, m.own = true → Stopped m.obj) → c.bundle.superBufNotifyCb.isSome = true →
      c.start.1 = false → Restartable c := by
  intro h
  have hstop : ∀ m ∈ bundledFailsInStreamOn.streams, m.own = true → Stopped m.obj := by
    intro m hm _
    obtain rfl := List.mem_singleton.mp hm
    exact configured_stopped ..
  have hr := h bundledFailsInStreamOn hstop rfl rfl
  exact absurd hr.config (by decide)

end Wt88047.Stream
