import Widgetry.Proofs.Host.Ends
import Widgetry.Segmented.Group
import Widgetry.Tabs.Row

/-! Any host, with a record of what passes between it and the widgets. The record takes no part in
the host's answers, so a statement about recorded runs is one about all runs. -/
namespace Widgetry

/-- A call that a widget makes, to its host or to a listener. A refused creation leaves no font
behind and is not recorded. -/
inductive HostCall where
  | created (font : FontHandle)
  | destroyed (font : FontHandle)
  | destroyFailed (font : FontHandle)
  | measured (font : FontHandle)
  | drewRect
  | drewText (font : FontHandle)
  | tabTapped (index : Nat)
  | segmentTapped (index : Nat) (on : Bool)
  deriving DecidableEq

/-- The font a call names, which a caller must hold. -/
def HostCall.font? : HostCall → Option FontHandle
  | destroyed font | destroyFailed font | measured font | drewText font => some font
  | created _ | drewRect | tabTapped _ | segmentTapped _ _ => none

/-- The font a call brings. -/
def HostCall.created? : HostCall → Option FontHandle
  | created font => some font
  | _ => none

structure Traced (σ : Type) where
  host : σ
  /-- The latest call comes first. -/
  calls : List HostCall

namespace Traced

variable {α σ χ β : Type} {t : Traced σ}

/-- Runs a call on the host and notes how it went. -/
def call (note : Except Error β → List HostCall) (act : HostM σ β) : HostM (Traced σ) β :=
  ExceptT.mk fun t =>
    let (r, host) := act.run t.host
    (r, ⟨host, note r ++ t.calls⟩)

@[simp] theorem ends_call (note : Except Error β → List HostCall) (act : HostM σ β)
    {post : Except Error β → Traced σ → Prop} :
    Ends (call note act) t post ↔ Ends act t.host fun r h => post r ⟨h, note r ++ t.calls⟩ :=
  Iff.rfl

theorem keeps_call {inv : Traced σ → Prop} {note : Except Error β → List HostCall}
    {act : HostM σ β} (h : ∀ t host r, inv t → inv ⟨host, note r ++ t.calls⟩) :
    Keeps inv (call note act) := fun t ht => h t _ _ ht

def noteCreate : Except Error FontHandle → List HostCall
  | .ok font => [.created font]
  | .error _ => []

def noteDestroy (font : FontHandle) : Except Error Unit → List HostCall
  | .ok () => [.destroyed font]
  | .error _ => [.destroyFailed font]

instance [TextHost α σ] : TextHost α (Traced σ) where
  createFont style := call noteCreate (TextHost.createFont style)
  destroyFont font := call (noteDestroy font) (TextHost.destroyFont font)
  measureText font text := call (fun _ => [.measured font]) (TextHost.measureText font text)

instance [PaintHost α σ] : PaintHost α (Traced σ) where
  drawRect r color corner := call (fun _ => [.drewRect]) (PaintHost.drawRect r color corner)
  drawText font text x y color :=
    call (fun _ => [.drewText font]) (PaintHost.drawText font text x y color)

def hearTab (listener : TabListener σ) : TabListener (Traced σ) :=
  fun index => call (fun _ => [.tabTapped index]) (listener index)

def hearSegment (listener : SegmentListener σ) : SegmentListener (Traced σ) :=
  fun index on => call (fun _ => [.segmentTapped index on]) (listener index on)

/-- The taps listeners were told of. -/
def tabTaps (t : Traced σ) : List Nat :=
  t.calls.filterMap fun
    | .tabTapped index => some index
    | _ => none

/-- The taps listeners were told of, each with the new state of its segment. -/
def segmentTaps (t : Traced σ) : List (Nat × Bool) :=
  t.calls.filterMap fun
    | .segmentTapped index on => some (index, on)
    | _ => none

end Traced

/-- A channel on the unrecorded host: what it asks of its host is no call of a widget. -/
structure Silent (χ : Type) where
  channel : χ

namespace Silent

variable {α σ χ β : Type}

def step (act : Step χ σ β) : Step (Silent χ) (Traced σ) β :=
  ExceptT.mk fun (c, t) =>
    let (r, channel, host) := act.run (c.channel, t.host)
    (r, ⟨channel⟩, ⟨host, t.calls⟩)

instance [Channel α σ χ] : Channel α (Traced σ) (Silent χ) where
  begin start target duration easing := step (Channel.begin start target duration easing)
  step dt := step (Channel.step dt)
  value := step Channel.value
  isIdle c := Channel.isIdle σ c.channel
  reset c := ⟨Channel.reset σ c.channel⟩

end Silent

end Widgetry
