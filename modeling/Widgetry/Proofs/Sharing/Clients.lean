import Mathlib.Data.List.Forall2
import Widgetry.Proofs.Sharing.Foundry
import Widgetry.Proofs.Sharing.Rows
import Widgetry.Recorder

/-! Widgets that have nothing in common but the backend that makes their fonts. Each keeps a record
of what it paints and of the taps it reports. -/
namespace Widgetry

variable {α κ χ β : Type}

/-- What a listener is told of. -/
inductive Tap where
  | tab (index : Nat)
  | segment (index : Nat) (on : Bool)
  deriving DecidableEq

/-- What a widget does not share: its records, and a state for its painter, listener and
channels. -/
structure Desk (α κ : Type) where
  /-- What the painter was asked for. -/
  painted : List (PaintCommand α)
  taps : List Tap
  own : κ

/-- The host as one widget sees it. -/
structure Client (α κ : Type) where
  foundry : Foundry α
  desk : Desk α κ

namespace Client

def onFoundry (act : HostM (Foundry α) β) : HostM (Client α κ) β :=
  HostM.zoom foundry (fun foundry c => { c with foundry }) act

def onOwn (act : HostM κ β) : HostM (Client α κ) β :=
  HostM.zoom (fun c => c.desk.own) (fun own c => { c with desk := { c.desk with own } }) act

def recordPaint (command : PaintCommand α) : HostM (Client α κ) Unit :=
  modify fun c => { c with desk := { c.desk with painted := c.desk.painted ++ [command] } }

def recordTap (tap : Tap) : HostM (Client α κ) Unit :=
  modify fun c => { c with desk := { c.desk with taps := c.desk.taps ++ [tap] } }

instance [Scalar α] : TextHost α (Client α κ) where
  createFont style := onFoundry (Foundry.createFont style)
  destroyFont font := onFoundry (Foundry.onBackend (Monospace.destroyFont font))
  measureText font text := onFoundry (Foundry.onBackend (Monospace.measureText font text))

theorem ends_createFont [Scalar α] {style : TextStyle α} {s : Client α κ}
    {post : Except Error FontHandle → Client α κ → Prop} :
    Ends (TextHost.createFont style) s post ↔
      match style.validate false with
      | .ok _ => post (.ok ⟨s.foundry.nextId, 1⟩)
          { s with foundry := s.foundry.cast (Scalar.ofInt style.sizePx) }
      | .error e => post (.error e) s := by
  change Ends (Foundry.createFont style) s.foundry (fun r foundry => post r { s with foundry }) ↔ _
  refine Foundry.ends_createFont.trans ?_
  cases style.validate false <;> exact Iff.rfl

/-- The painter is not told the numbers of a font. -/
instance [PaintHost α κ] : PaintHost α (Client α κ) where
  drawRect r color corner := do
    recordPaint (.rect r color corner)
    onOwn (PaintHost.drawRect r color corner)
  drawText font text x y color := do
    recordPaint (.text font text x y color)
    onOwn (PaintHost.drawText default text x y color)

def hearTab (listener : TabListener κ) : TabListener (Client α κ) := fun index => do
  recordTap (.tab index)
  onOwn (listener index)

def hearSegment (listener : SegmentListener κ) : SegmentListener (Client α κ) := fun index on => do
  recordTap (.segment index on)
  onOwn (listener index on)

end Client

/-- A channel that sees nothing of the shared backend. -/
structure Private (χ : Type) where
  channel : χ

namespace Private

def step (act : Step χ κ β) : Step (Private χ) (Client α κ) β :=
  ExceptT.mk fun (c, s) =>
    let (r, channel, own) := act.run (c.channel, s.desk.own)
    (r, ⟨channel⟩, { s with desk := { s.desk with own } })

theorem ends_step {act : Step χ κ β} {c : Private χ} {s : Client α κ}
    {post : Except Error β → Private χ × Client α κ → Prop} :
    Ends (step act) (c, s) post ↔ Ends act (c.channel, s.desk.own) fun r p =>
      post r (⟨p.1⟩, { s with desk := { s.desk with own := p.2 } }) := Iff.rfl

instance [Channel α κ χ] : Channel α (Client α κ) (Private χ) where
  begin start target duration easing := step (Channel.begin start target duration easing)
  step dt := step (Channel.step dt)
  value := step Channel.value
  isIdle c := Channel.isIdle κ c.channel
  reset c := ⟨Channel.reset κ c.channel⟩

end Private

/-- The same command under other numbers. -/
inductive PaintCommand.Renamed (names : Names) : PaintCommand α → PaintCommand α → Prop
  | rect (bounds : Rect α) (color : Color α) (corner : α) :
      Renamed names (.rect bounds color corner) (.rect bounds color corner)
  | text {font font' : FontHandle} (link : names.Link font font') (text : String) (x y : α)
      (color : Color α) : Renamed names (.text font text x y color) (.text font' text x y color)

structure Desk.Alike (names : Names) (d d' : Desk α κ) : Prop where
  painted : List.Forall₂ (PaintCommand.Renamed names) d.painted d'.painted
  taps : d.taps = d'.taps
  own : d.own = d'.own

/-- A client of a shared backend, and the same client of one of its own. -/
structure Client.Parallel (start : Foundry α) (kept : UInt32 → Prop) (names : Names)
    (s t : Client α κ) : Prop where
  foundry : Shares start kept names s.foundry t.foundry
  desk : s.desk.Alike names t.desk

namespace Client

variable {start : Foundry α} {kept : UInt32 → Prop} {names : Names}

theorem agree_onFoundry {act act' : HostM (Foundry α) β}
    (h : Agree (Shares start kept names) act act') :
    Agree (Parallel start kept names : Client α κ → Client α κ → Prop) (onFoundry act)
      (onFoundry act') := by
  rintro s t ⟨hfoundry, hdesk⟩
  rw [onFoundry, HostM.ends_zoom]
  apply (h s.foundry t.foundry hfoundry).imp
  intro r f hr
  rw [onFoundry, HostM.ends_zoom]
  exact hr.imp fun r' g hr => hr.imp_left fun hr => ⟨hr.1, hr.2, hdesk⟩

theorem agree_onOwn (act : HostM κ β) :
    Agree (Parallel start kept names : Client α κ → Client α κ → Prop) (onOwn act)
      (onOwn act) := by
  rintro s t ⟨hfoundry, hdesk⟩
  unfold onOwn
  simp only [HostM.ends_zoom, hdesk.own]
  exact .inl ⟨rfl, hfoundry, hdesk.painted, hdesk.taps, rfl⟩

theorem agree_recordPaint {command command' : PaintCommand α} (h : command.Renamed names command') :
    Agree (Parallel start kept names : Client α κ → Client α κ → Prop) (recordPaint command)
      (recordPaint command') := by
  rintro s t ⟨hfoundry, hdesk⟩
  refine .inl ⟨rfl, hfoundry, ?_, hdesk.taps, hdesk.own⟩
  exact List.rel_append hdesk.painted (.cons h .nil)

theorem agree_recordTap (tap : Tap) :
    Agree (Parallel start kept names : Client α κ → Client α κ → Prop) (recordTap tap)
      (recordTap tap) := by
  rintro s t ⟨hfoundry, hdesk⟩
  exact .inl ⟨rfl, hfoundry, hdesk.painted, congrArg (· ++ [tap]) hdesk.taps, hdesk.own⟩

theorem blind_private (act : Step χ κ β) :
    Step.Blind Eq (Parallel start kept names : Client α κ → Client α κ → Prop)
      (Private.step act) := by
  rintro ⟨c, s⟩ ⟨_, t⟩ ⟨rfl, hfoundry, hdesk⟩
  have hown : s.desk.own = t.desk.own := hdesk.own
  simp only [Private.ends_step]
  rw [hown]
  exact .inl ⟨rfl, rfl, hfoundry, hdesk.painted, hdesk.taps, rfl⟩

variable {count : Nat}

/-- The same client twice, when so many fonts have been made. -/
def Still (count : Nat) (s t : Client α κ) : Prop := s = t ∧ s.foundry.made = count

theorem blind_still {act : HostM (Client α κ) β}
    (h : Keeps (fun s : Client α κ => s.foundry.made = count) act) :
    Agree (Still count) act act := keeps_iff.mp h

variable [Scalar α] [PaintHost α κ] [Channel α κ χ]

/-- A client cannot tell its fonts among many from its fonts alone. -/
theorem concurs_parallel :
    Concurs (Private χ) hearTab hearSegment names.Link
      (Parallel start kept names : Client α κ → Client α κ → Prop) where
  measureText _ _ hl text := agree_onFoundry (Shares.agree_measureText hl text)
  destroyFont _ _ hl := agree_onFoundry (Shares.agree_destroyFont hl)
  drawRect r color corner :=
    (agree_recordPaint (.rect r color corner)).bind fun _ => agree_onOwn _
  drawText _ _ hl text x y color :=
    (agree_recordPaint (.text hl text x y color)).bind fun _ => agree_onOwn _
  begin _ _ _ _ := blind_private _
  step _ := blind_private _
  value := blind_private _
  tabTapped _ index := (agree_recordTap (.tab index)).bind fun _ => agree_onOwn _
  segmentTapped _ index on := (agree_recordTap (.segment index on)).bind fun _ => agree_onOwn _

/-- Only a new font adds to the count. -/
theorem concurs_still :
    Concurs (Private χ) hearTab hearSegment Eq (Still count : Client α κ → Client α κ → Prop) where
  measureText := by
    rintro font _ rfl text
    exact blind_still fun _ h => h
  destroyFont := by
    rintro font _ rfl
    exact blind_still fun _ h => h
  drawRect _ _ _ := blind_still fun _ h => h
  drawText := by
    rintro font _ rfl text x y color
    exact blind_still fun _ h => h
  begin _ _ _ _ := by
    rintro ⟨c, s⟩ _ ⟨rfl, rfl, hs⟩
    exact .inl ⟨rfl, rfl, rfl, hs⟩
  step _ := by
    rintro ⟨c, s⟩ _ ⟨rfl, rfl, hs⟩
    exact .inl ⟨rfl, rfl, rfl, hs⟩
  value := by
    rintro ⟨c, s⟩ _ ⟨rfl, rfl, hs⟩
    exact .inl ⟨rfl, rfl, rfl, hs⟩
  tabTapped _ _ := blind_still fun _ h => h
  segmentTapped _ _ _ := blind_still fun _ h => h

end Client

end Widgetry
