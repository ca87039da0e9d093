import Widgetry.Proofs.Toml.Number
import Widgetry.Proofs.Toml.Text
import Widgetry.Toml.Reader

/-! What the reader takes from the front of a text: characters, keys with points between their
parts, values on one line, lines and blocks of lines. -/
namespace Widgetry.Toml.Reader

variable {β γ : Type} {m : Reader β} {b : β} {c : γ} {s t u : List Char}

/-- The reader gives a value and leaves the rest of the text. -/
def Reads (m : Reader β) (s : List Char) (b : β) (rest : List Char) : Prop :=
  m.run s = .ok (b, rest)

theorem reads_pure (b : β) (s : List Char) : Reads (pure b) s b s := rfl

theorem Reads.bind {k : β → Reader γ} (h : Reads m s b t) (h' : Reads (k b) t c u) :
    Reads (m >>= k) s c u := by
  rw [Reads, StateT.run_bind, show m.run s = .ok (b, t) from h]
  exact h'

theorem reads_get (s : List Char) : Reads get s s s := rfl

theorem reads_set (s t : List Char) : Reads (set t) s () t := rfl

theorem reads_liftExcept {e : Except Fault β} (h : e = .ok b) (s : List Char) :
    Reads (liftExcept e) s b s := by
  rw [h]
  rfl

theorem reads_peek (s : List Char) : Reads peek s s.head? s := rfl

theorem reads_accept (d : Char) (s : List Char) : Reads (accept d) (d :: s) true s := by
  refine (reads_get _).bind ?_
  dsimp only
  rw [if_pos rfl]
  exact (reads_set _ s).bind (reads_pure true s)

theorem reads_accept_of_ne {d : Char} (h : s.head? ≠ some d) : Reads (accept d) s false s := by
  refine (reads_get s).bind ?_
  cases s with
  | nil => exact reads_pure false []
  | cons e rest =>
    dsimp only
    rw [if_neg fun heq => h (congrArg some heq)]
    exact reads_pure false _

theorem reads_expect (d : Char) (s : List Char) : Reads (expect d) (d :: s) () s :=
  (reads_accept d s).bind (reads_pure () s)

theorem reads_takeWhile {ok : Char → Bool} (hs : ∀ d ∈ s, ok d = true)
    (ht : ∀ d, t.head? = some d → ok d = false) : Reads (takeWhile ok) (s ++ t) s t := by
  have htake : t.takeWhile ok = [] ∧ t.dropWhile ok = t := by
    cases t with
    | nil => exact ⟨rfl, rfl⟩
    | cons d rest =>
      have hd : ¬ok d = true := Bool.eq_false_iff.mp (ht d rfl)
      exact ⟨List.takeWhile_cons_of_neg hd, List.dropWhile_cons_of_neg hd⟩
  change Except.ok ((s ++ t).takeWhile ok, (s ++ t).dropWhile ok) = _
  rw [List.takeWhile_append_of_pos hs, List.dropWhile_append_of_pos hs, htake.1, htake.2,
    List.append_nil]

theorem reads_blanks (hs : ∀ d ∈ s, isBlank d = true)
    (ht : ∀ d, t.head? = some d → isBlank d = false) : Reads blanks (s ++ t) () t :=
  (reads_takeWhile hs ht).bind (reads_pure () t)

theorem reads_no_blanks (ht : ∀ d, t.head? = some d → isBlank d = false) : Reads blanks t () t :=
  reads_blanks (List.forall_mem_nil _) ht

section Keys

variable {key : String} {path parts : List String} {pad : List Char}

/-- A key that needs no quotes. -/
structure Bare (key : String) : Prop where
  ne_empty : key.toList ≠ []
  bare : ∀ c ∈ key.toList, isBareKeyChar c = true

instance (key : String) : Decidable (Bare key) :=
  decidable_of_iff (key.toList ≠ [] ∧ key.toList.all isBareKeyChar = true)
    ⟨fun h => ⟨h.1, List.all_eq_true.mp h.2⟩, fun h => ⟨h.1, List.all_eq_true.mpr h.2⟩⟩

theorem not_blank_of_bare {d : Char} (h : isBareKeyChar d = true) : isBlank d = false := by
  rw [← Bool.not_eq_true, isBlank, Bool.or_eq_true, beq_iff_eq, beq_iff_eq]
  rintro (rfl | rfl)
  · exact absurd h (by decide)
  · exact absurd h (by decide)

theorem Bare.head_bare (h : Bare key) (tail : List Char) :
    ∀ d, (key.toList ++ tail).head? = some d → isBareKeyChar d = true := by
  intro d hd
  rw [List.head?_append_of_ne_nil _ h.ne_empty] at hd
  exact h.bare d (List.mem_of_mem_head? hd)

theorem reads_simpleKey (h : Bare key) (ht : ∀ d, t.head? = some d → isBareKeyChar d = false) :
    Reads simpleKey (key.toList ++ t) key t := by
  have hhead := h.head_bare t
  refine (reads_peek _).bind ?_
  split
  next heq => exact absurd (hhead _ heq) (by decide)
  next heq => exact absurd (hhead _ heq) (by decide)
  next =>
    refine (reads_takeWhile h.bare ht).bind ?_
    rw [if_neg fun hempty => h.ne_empty (List.isEmpty_iff.mp hempty), String.ofList_toList]
    exact reads_pure key t

/-- A part of a key, and whether another one follows. -/
def keyPart (parts : List String) : Reader (List String × Bool) := do
  blanks
  let part ← simpleKey
  blanks
  return (parts ++ [part], ← accept '.')

theorem reads_keyPart_more (h : Bare key) (s : List Char) :
    Reads (keyPart parts) (key.toList ++ '.' :: s) (parts ++ [key], true) s := by
  refine (reads_no_blanks fun d hd => not_blank_of_bare (h.head_bare _ d hd)).bind ?_
  refine (reads_simpleKey h fun d hd => ?_).bind ?_
  · rw [← Option.some.inj hd]
    rfl
  · refine (reads_no_blanks fun d hd => ?_).bind ?_
    · rw [← Option.some.inj hd]
      rfl
    · exact (reads_accept '.' s).bind (reads_pure _ s)

/-- The rest of a text ends a key. -/
def EndsKey (t : List Char) : Prop :=
  ∀ d, t.head? = some d → isBareKeyChar d = false ∧ isBlank d = false ∧ d ≠ '.'

theorem reads_keyPart_last (h : Bare key) (hpad : ∀ d ∈ pad, isBlank d = true) (ht : EndsKey t) :
    Reads (keyPart parts) (key.toList ++ (pad ++ t)) (parts ++ [key], false) t := by
  refine (reads_no_blanks fun d hd => not_blank_of_bare (h.head_bare _ d hd)).bind ?_
  refine (reads_simpleKey h fun d hd => ?_).bind ?_
  · cases pad with
    | nil => exact (ht d hd).1
    | cons e pad =>
      have hblank : isBlank d = true := by
        rw [← Option.some.inj hd]
        exact hpad e List.mem_cons_self
      by_contra hbare
      exact Bool.false_ne_true ((not_blank_of_bare (Bool.not_eq_false _ ▸ hbare)).symm.trans hblank)
  · refine (reads_blanks hpad fun d hd => (ht d hd).2.1).bind ?_
    exact (reads_accept_of_ne fun heq => (ht _ heq).2.2 rfl).bind (reads_pure _ t)

/-- The parts of a path, each with a point behind it. -/
def pointed (path : List String) : List Char := path.flatMap fun part => part.toList ++ ['.']

theorem reads_iterate_key (hpath : ∀ part ∈ path, Bare part) (h : Bare key)
    (hpad : ∀ d ∈ pad, isBlank d = true) (ht : EndsKey t) {fuel : Nat} (hfuel : path.length < fuel)
    (parts : List String) :
    Reads (iterate keyPart fuel parts) (pointed path ++ (key.toList ++ (pad ++ t)))
      (parts ++ (path ++ [key])) t := by
  induction path generalizing parts fuel with
  | nil =>
    obtain ⟨fuel, rfl⟩ := Nat.exists_eq_succ_of_ne_zero (Nat.ne_of_gt hfuel)
    exact (reads_keyPart_last h hpad ht).bind (reads_pure _ t)
  | cons part path ih =>
    obtain ⟨fuel, rfl⟩ := Nat.exists_eq_succ_of_ne_zero (show fuel ≠ 0 by omega)
    obtain ⟨hpart, hpath⟩ := List.forall_mem_cons.mp hpath
    rw [pointed, List.flatMap_cons, List.append_assoc, List.append_assoc]
    refine (reads_keyPart_more hpart _).bind ?_
    have := ih hpath (Nat.lt_of_succ_lt_succ hfuel) (parts ++ [part])
    rw [List.append_assoc] at this
    exact this

theorem head_pointed (hpath : ∀ part ∈ path, Bare part) (h : Bare key) (t : List Char) :
    ∀ d, (pointed path ++ (key.toList ++ t)).head? = some d → isBareKeyChar d = true := by
  cases path with
  | nil => exact h.head_bare t
  | cons part path =>
    rw [pointed, List.flatMap_cons, List.append_assoc, List.append_assoc]
    exact (hpath part List.mem_cons_self).head_bare _

theorem length_le_pointed (path : List String) : path.length ≤ (pointed path).length := by
  induction path with
  | nil => exact Nat.le_refl 0
  | cons part path ih =>
    rw [pointed, List.flatMap_cons, List.length_append, List.length_append, List.length_cons]
    have : (pointed path).length = (path.flatMap fun part => part.toList ++ ['.']).length := rfl
    simp only [List.length_cons, List.length_nil]
    omega

theorem reads_key (pad : List Char) (hpath : ∀ part ∈ path, Bare part) (h : Bare key)
    (hlimit : path.length < depthLimit) (hpad : ∀ d ∈ pad, isBlank d = true) (ht : EndsKey t) :
    Reads Reader.key (pointed path ++ (key.toList ++ (pad ++ t))) (path, key) t := by
  have hfuel : path.length < (pointed path ++ (key.toList ++ (pad ++ t))).length + 1 := by
    have := length_le_pointed path
    rw [List.length_append]
    omega
  refine Reads.bind (m := loop keyPart []) (b := path ++ [key]) (t := t) ?_ ?_
  · exact (reads_get _).bind (reads_iterate_key hpath h hpad ht hfuel [])
  · rw [List.getLast?_concat, List.dropLast_concat]
    dsimp only
    rw [if_pos (by rw [List.length_append]; exact hlimit)]
    exact reads_pure _ t

end Keys

section Values

variable {value : Value} {onArray onTable : Reader Value}

theorem reads_text (text : String) (h : t.head? ≠ some '"') :
    Reads (Reader.text Text.read) ((Text.write text).toList ++ t) text t := by
  refine (reads_get _).bind ((reads_liftExcept (Text.read_write text h) _).bind ?_)
  dsimp only
  rw [String.ofList_toList]
  exact (reads_set _ t).bind (reads_pure text t)

theorem reads_scalar {token : List Char} (h : Literal.Stands token value)
    (ht : ∀ d, t.head? = some d → Literal.isTokenChar d = false) :
    Reads scalar (token ++ t) value t := by
  refine (reads_takeWhile h.token ht).bind ((reads_get t).bind ?_)
  dsimp only
  rw [h.not_date, Bool.false_and, Bool.false_and, if_neg Bool.false_ne_true, h.read]
  exact reads_pure value t

/-- A text written on one line, and the value that is read from it. -/
structure Inlined (s : List Char) (value : Value) : Prop where
  reads : ∀ (onArray onTable : Reader Value) (t : List Char),
    Reads (item onArray onTable) (s ++ '\n' :: t) value ('\n' :: t)
  not_blank : ∀ (t : List Char) (d : Char), (s ++ t).head? = some d → isBlank d = false

theorem quote_of_write (text : String) : ∃ quote rest,
    (Text.write text).toList = quote :: rest ∧ (quote = '"' ∨ quote = '\'') := by
  rw [Text.write]
  split
  · exact ⟨_, _, String.toList_ofList, .inr rfl⟩
  · exact ⟨_, _, String.toList_ofList, .inl rfl⟩

theorem inlined_text (text : String) : Inlined (Text.write text).toList (.string text) := by
  obtain ⟨quote, rest, hwrite, hquote⟩ := quote_of_write text
  constructor
  · intro onArray onTable t
    have hread := reads_text text (t := '\n' :: t) fun heq =>
      absurd (Option.some.inj heq) (by decide)
    rw [hwrite] at hread ⊢
    rcases hquote with rfl | rfl
    · exact (reads_peek _).bind (hread.bind (reads_pure _ _))
    · exact (reads_peek _).bind (hread.bind (reads_pure _ _))
  · intro t d hd
    rw [hwrite] at hd
    obtain rfl := Option.some.inj hd
    rcases hquote with rfl | rfl
    · rfl
    · rfl

theorem inlined_token {token : List Char} (h : Literal.Stands token value) :
    Inlined token value := by
  obtain ⟨c, rest, rfl⟩ := List.exists_cons_of_ne_nil h.ne_nil
  have hc : Literal.isTokenChar c = true := h.token c List.mem_cons_self
  have hne {d : Char} (hd : Literal.isTokenChar d = false) : some c ≠ some d := by
    rintro heq
    rw [← Option.some.inj heq, hc] at hd
    exact nomatch hd
  constructor
  · intro onArray onTable t
    refine (reads_peek _).bind ?_
    split
    next heq => exact (hne (by decide) heq).elim
    next heq => exact (hne (by decide) heq).elim
    next heq => exact (hne (by decide) heq).elim
    next heq => exact (hne (by decide) heq).elim
    next =>
      refine reads_scalar h fun d hd => ?_
      rw [← Option.some.inj hd]
      decide
  · intro t d hd
    rw [isBlank, Bool.or_eq_false_iff, beq_eq_false_iff_ne, beq_eq_false_iff_ne]
    constructor
    · rintro rfl
      exact hne (by decide) hd
    · rintro rfl
      exact hne (by decide) hd

theorem Inlined.reads_value {s : List Char} (h : Inlined s value) (depth : Nat) (t : List Char) :
    Reads (Reader.value depth) (s ++ '\n' :: t) value ('\n' :: t) := by
  cases depth with
  | zero => exact h.reads _ _ t
  | succ depth => exact h.reads _ _ t

end Values

section Lines

variable {key : String} {path header : List String} {root root' : Entries} {value : Value}

theorem reads_lineEnd (t : List Char) : Reads lineEnd ('\n' :: t) () t := by
  refine (reads_no_blanks fun d hd => ?_).bind ?_
  · rw [← Option.some.inj hd]
    decide
  refine Reads.bind (m := comment) (b := ()) (t := '\n' :: t) ?_ ?_
  · exact (reads_accept_of_ne (by simp)).bind (reads_pure () _)
  refine (reads_get _).bind ?_
  rw [if_neg (by simp)]
  exact Reads.bind (m := newline?) (b := true) (t := t) ((reads_get _).bind ((reads_set _ t).bind
    (reads_pure true t))) (reads_pure () t)

theorem reads_pair (hkey : Bare key) {s : List Char} (h : Inlined s value)
    (hassign : root.assign header [] key value = .ok root') (depth : Nat) (t : List Char) :
    Reads (pair (Reader.value depth) header root)
      (key.toList ++ ' ' :: '=' :: ' ' :: (s ++ '\n' :: t)) root' ('\n' :: t) := by
  have hends : EndsKey ('=' :: ' ' :: (s ++ '\n' :: t)) := by
    intro d hd
    rw [← Option.some.inj hd]
    decide
  have hnone : ∀ part ∈ ([] : List String), Bare part := List.forall_mem_nil _
  have hread := reads_key [' '] hnone hkey (by decide) (List.forall_mem_singleton.mpr rfl) hends
  refine hread.bind ((reads_expect '=' _).bind ?_)
  refine Reads.bind (m := blanks) (b := ()) (t := s ++ '\n' :: t) ?_ ?_
  · exact reads_blanks (s := [' ']) (List.forall_mem_singleton.mpr rfl) (h.not_blank _)
  · exact (h.reads_value depth t).bind (reads_liftExcept hassign _)

theorem reads_header (hpath : ∀ part ∈ path, Bare part) (hkey : Bare key)
    (hlimit : path.length < depthLimit) (hopen : root.openTable path key = .ok root')
    (t : List Char) :
    Reads (Reader.header root) ('[' :: (pointed path ++ (key.toList ++ ']' :: '\n' :: t)))
      (path ++ [key], root') t := by
  have hends : EndsKey (']' :: '\n' :: t) := by
    intro d hd
    rw [← Option.some.inj hd]
    decide
  have hhead : (pointed path ++ (key.toList ++ ']' :: '\n' :: t)).head? ≠ some '[' :=
    fun heq => absurd (head_pointed hpath hkey _ _ heq) (by decide)
  have hread := reads_key [] hpath hkey hlimit (List.forall_mem_nil _) hends
  refine (reads_expect '[' _).bind ((reads_accept_of_ne hhead).bind ?_)
  rw [if_neg Bool.false_ne_true]
  refine hread.bind ((reads_expect ']' _).bind ((reads_lineEnd t).bind ?_))
  exact (reads_liftExcept hopen t).bind (reads_pure _ t)

/-- Where the reader stands: the header the lines are under, and the tables read so far. -/
abbrev Place := List String × Entries

variable {place place' place'' : Place}

theorem reads_line_end (place : Place) : Reads (line place) [] (place, false) [] :=
  (reads_no_blanks fun _ hd => (Option.some_ne_none _ hd.symm).elim).bind
    ((reads_peek []).bind (reads_pure _ []))

theorem reads_line_blank (place : Place) (t : List Char) :
    Reads (line place) ('\n' :: t) (place, true) t := by
  refine (reads_no_blanks fun d hd => ?_).bind ((reads_peek _).bind ?_)
  · rw [← Option.some.inj hd]
    decide
  · exact (reads_lineEnd t).bind (reads_pure _ t)

theorem reads_line_pair (hkey : Bare key) {s : List Char} (h : Inlined s value)
    (hassign : root.assign header [] key value = .ok root') (t : List Char) :
    Reads (line (header, root)) (key.toList ++ ' ' :: '=' :: ' ' :: (s ++ '\n' :: t))
      ((header, root'), true) t := by
  have hhead := hkey.head_bare (' ' :: '=' :: ' ' :: (s ++ '\n' :: t))
  refine (reads_no_blanks fun d hd => not_blank_of_bare (hhead d hd)).bind ((reads_peek _).bind ?_)
  split
  next heq =>
    have hnil := List.append_eq_nil_iff.mp (List.head?_eq_none_iff.mp heq)
    exact (hkey.ne_empty hnil.1).elim
  next heq => exact absurd (hhead _ heq) (by decide)
  next heq => exact absurd (hhead _ heq) (by decide)
  next heq => exact absurd (hhead _ heq) (by decide)
  next heq => exact absurd (hhead _ heq) (by decide)
  next =>
    refine (reads_pair hkey h hassign depthLimit t).bind ?_
    exact (reads_lineEnd t).bind (reads_pure _ t)

theorem reads_line_header (header : List String) (hpath : ∀ part ∈ path, Bare part)
    (hkey : Bare key) (hlimit : path.length < depthLimit)
    (hopen : root.openTable path key = .ok root')
    (t : List Char) :
    Reads (line (header, root)) ('[' :: (pointed path ++ (key.toList ++ ']' :: '\n' :: t)))
      ((path ++ [key], root'), true) t := by
  refine (reads_no_blanks fun d hd => ?_).bind ((reads_peek _).bind ?_)
  · rw [← Option.some.inj hd]
    decide
  · exact (reads_header hpath hkey hlimit hopen t).bind (reads_pure _ t)

/-- A text of whole lines, each of which takes a step of the reader, without a byte order mark in
front. -/
structure Passes (place : Place) (s : List Char) (place' : Place) : Prop where
  no_mark : s.head? ≠ some '\ufeff'
  steps : ∃ count ≤ s.length, ∀ fuel t,
    (iterate line (fuel + count) place).run (s ++ t) = (iterate line fuel place').run t

theorem passes_nil (place : Place) : Passes place [] place where
  no_mark := by decide
  steps := ⟨0, Nat.le_refl 0, fun _ _ => rfl⟩

theorem passes_line {d : Char} (hs : s.head? = some d) (hd : d ≠ '\ufeff')
    (h : ∀ t, Reads (line place) (s ++ t) (place', true) t) : Passes place s place' where
  no_mark heq := hd (Option.some.inj (hs.symm.trans heq))
  steps := by
    refine ⟨1, ?_, fun fuel t => ?_⟩
    · refine List.length_pos_iff.mpr ?_
      rintro rfl
      exact Option.some_ne_none _ hs.symm
    · rw [iterate, StateT.run_bind, show (line place).run (s ++ t) = _ from h t]
      rfl

theorem Passes.append (h : Passes place s place') (h' : Passes place' t place'') :
    Passes place (s ++ t) place'' where
  no_mark := by
    cases s with
    | nil => exact h'.no_mark
    | cons d s => exact h.no_mark
  steps := by
    obtain ⟨count, hcount, hstep⟩ := h.steps
    obtain ⟨count', hcount', hstep'⟩ := h'.steps
    refine ⟨count' + count, ?_, fun fuel u => ?_⟩
    · rw [List.length_append]
      omega
    · rw [← Nat.add_assoc, List.append_assoc, hstep, hstep']

/-- The reader ends where the lines do. -/
theorem Passes.run_loop (h : Passes place s place') :
    (loop line place).run s = .ok (place', []) := by
  obtain ⟨count, hcount, hstep⟩ := h.steps
  obtain ⟨fuel, hfuel⟩ : ∃ fuel, s.length + 1 = fuel + 1 + count := ⟨s.length - count, by omega⟩
  have hend : (iterate line (fuel + 1) place').run [] = .ok (place', []) :=
    (reads_line_end place').bind (reads_pure place' [])
  have hall := hstep (fuel + 1) []
  rw [List.append_nil] at hall
  change (iterate line (s.length + 1) place).run s = _
  rw [hfuel, hall, hend]

theorem passes_blank (place : Place) : Passes place ['\n'] place :=
  passes_line rfl (by decide) (reads_line_blank place)

theorem not_mark_of_bare {d : Char} (h : isBareKeyChar d = true) : d ≠ '\ufeff' := by
  rintro rfl
  exact absurd h (by decide)

theorem passes_pair (hkey : Bare key) {s : List Char} (h : Inlined s value)
    (hassign : root.assign header [] key value = .ok root') :
    Passes (header, root) (key.toList ++ ' ' :: '=' :: ' ' :: (s ++ ['\n'])) (header, root') := by
  obtain ⟨d, rest, hd⟩ := List.exists_cons_of_ne_nil hkey.ne_empty
  refine passes_line (d := d) ?_ (not_mark_of_bare (hkey.bare d (hd ▸ List.mem_cons_self))) ?_
  · rw [hd]
    rfl
  · intro t
    have hread := reads_line_pair hkey h hassign t
    simpa using hread

theorem passes_header (header : List String) (hpath : ∀ part ∈ path, Bare part) (hkey : Bare key)
    (hlimit : path.length < depthLimit) (hopen : root.openTable path key = .ok root') :
    Passes (header, root) ('[' :: (pointed path ++ (key.toList ++ [']', '\n'])))
      (path ++ [key], root') := by
  refine passes_line rfl (by decide) fun t => ?_
  have hread := reads_line_header header hpath hkey hlimit hopen t
  simpa using hread

end Lines

/-- The blocks of a document one after the other. -/
def Through : Place → List (List Char) → Place → Prop
  | place, [], place' => place = place'
  | place, block :: rest, place' => ∃ mid, Passes place block mid ∧ Through mid rest place'

section Blocks

variable {place place' place'' : Place} {blocks blocks' : List (List Char)}

theorem Through.append (h : Through place blocks place') (h' : Through place' blocks' place'') :
    Through place (blocks ++ blocks') place'' := by
  induction blocks generalizing place with
  | nil =>
    obtain rfl : place = place' := h
    exact h'
  | cons block rest ih =>
    obtain ⟨mid, hblock, hrest⟩ := h
    exact ⟨mid, hblock, ih hrest⟩

/-- Blank lines between the blocks change nothing. -/
theorem Through.passes (h : Through place blocks place') :
    Passes place (List.intercalate ['\n'] blocks) place' := by
  induction blocks generalizing place with
  | nil =>
    obtain rfl : place = place' := h
    exact passes_nil place
  | cons block rest ih =>
    obtain ⟨mid, hblock, hrest⟩ := h
    cases rest with
    | nil =>
      obtain rfl : mid = place' := hrest
      rw [List.intercalate_singleton]
      exact hblock
    | cons next rest =>
      rw [List.intercalate_cons_cons, List.append_assoc]
      exact hblock.append ((passes_blank mid).append (ih hrest))

end Blocks

end Widgetry.Toml.Reader
