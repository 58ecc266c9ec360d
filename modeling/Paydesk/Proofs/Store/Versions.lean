import Paydesk.Proofs.Service.Trail
import Mathlib.Data.List.Basic

/-!
# Versions of stored payments

Use cases that save at most once, either a payment under a name that they have just drawn or a
copy that they have loaded (`Hold.Step`), run over one store. Then every payment goes through the
versions 1, 2, 3, … whatever the order of their steps is (`Orderly`).

1. A copy that somebody holds is one of the states that were stored, and no version was stored
   twice; so a copy whose version is the stored one is the stored payment itself
   (`Orderly.nextVersion_isOk_iff`).
2. A copy is the stored payment as long as no accepted save and no deletion has touched its name,
   and never again after that (`Orderly.find?_append_iff`).

Only a name that is drawn again after a deletion could start the versions anew. Names are drawn once
or nothing is deleted (`Unreborn`).
-/

namespace Paydesk

variable {ι γ π σ : Type}

/-! ## What a log says of the writes -/

namespace Entry

/-- The state that an accepted save has stored. -/
def written : Entry ι γ π → Option Payment
  | .act _ (.save p (.ok version)) => some (p.withVersion version).commitEvents
  | _ => none

def drawnId : Entry ι γ π → Option PaymentId
  | .act _ (.freshId id) => some id
  | _ => none

/-- A save of the payment was accepted, or it was taken out. -/
def Touches (id : PaymentId) : Entry ι γ π → Prop
  | .act _ (.save p (.ok _)) => p.id = id
  | .delete other => other = id
  | _ => False

theorem written_cases (e : Entry ι γ π) :
    e.written = none ∨ ∃ i q version, e = .act i (.save q (.ok version)) := by
  unfold written
  split
  · exact .inr ⟨_, _, _, rfl⟩
  · exact .inl rfl

end Entry

/-- All stored states, the newest first. -/
def writes (log : List (Entry ι γ π)) : List Payment :=
  log.filterMap Entry.written

/-- The stored states of one payment, the newest first. -/
def writesOf (id : PaymentId) (log : List (Entry ι γ π)) : List Payment :=
  (writes log).filter fun p => p.id = id

def drawn (log : List (Entry ι γ π)) : List PaymentId :=
  log.filterMap Entry.drawnId

/-- No name is drawn again after its payment was taken out: names are drawn once, or nothing is
taken out. -/
def Unreborn (log : List (Entry ι γ π)) : Prop :=
  (drawn log).Nodup ∨ ∀ id, Entry.delete id ∉ log

theorem writes_cons_of_none {e : Entry ι γ π} (h : e.written = none) (log : List (Entry ι γ π)) :
    writes (e :: log) = writes log :=
  List.filterMap_cons_none h

theorem writes_save (i : ι) (p : Payment) (version : Nat) (log : List (Entry ι γ π)) :
    writes (.act i (.save p (.ok version)) :: log) =
      (p.withVersion version).commitEvents :: writes log :=
  List.filterMap_cons_some rfl

theorem writesOf_append (id : PaymentId) (later log : List (Entry ι γ π)) :
    writesOf id (later ++ log) = writesOf id later ++ writesOf id log := by
  unfold writesOf writes
  rw [List.filterMap_append, List.filter_append]

theorem writesOf_cons_of_none {e : Entry ι γ π} (h : e.written = none) (id : PaymentId)
    (log : List (Entry ι γ π)) : writesOf id (e :: log) = writesOf id log := by
  unfold writesOf writes
  rw [List.filterMap_cons_none h]

theorem writesOf_save (id : PaymentId) (i : ι) (p : Payment) (version : Nat)
    (log : List (Entry ι γ π)) :
    writesOf id (.act i (.save p (.ok version)) :: log) =
      if p.id = id then (p.withVersion version).commitEvents :: writesOf id log
      else writesOf id log := by
  unfold writesOf
  rw [writes_save]
  by_cases h : p.id = id
  · rw [if_pos h]
    exact List.filter_cons_of_pos (decide_eq_true h)
  · rw [if_neg h]
    exact List.filter_cons_of_neg fun hid => h (of_decide_eq_true hid)

theorem mem_writesOf_of_mem_save {i : ι} {p : Payment} {version : Nat}
    {log : List (Entry ι γ π)} (h : Entry.act i (.save p (.ok version)) ∈ log) :
    (p.withVersion version).commitEvents ∈ writesOf p.id log := by
  unfold writesOf writes
  exact List.mem_filter.2 ⟨List.mem_filterMap.2 ⟨_, h, rfl⟩, decide_eq_true rfl⟩

theorem id_of_mem_writesOf {id : PaymentId} {p : Payment} {log : List (Entry ι γ π)}
    (h : p ∈ writesOf id log) : p.id = id := by
  unfold writesOf at h
  simpa using (List.mem_filter.1 h).2

theorem drawn_cons_of_none {e : Entry ι γ π} (h : e.drawnId = none) (log : List (Entry ι γ π)) :
    drawn (e :: log) = drawn log := by
  unfold drawn
  rw [List.filterMap_cons_none h]

theorem Unreborn.of_cons {e : Entry ι γ π} {log : List (Entry ι γ π)} (h : Unreborn (e :: log)) :
    Unreborn log := by
  rcases h with hnodup | hkept
  · left
    unfold drawn at hnodup ⊢
    exact hnodup.sublist ((List.sublist_cons_self e log).filterMap _)
  · right
    exact fun id hmem => hkept id (List.mem_cons_of_mem e hmem)

theorem Unreborn.of_append {later log : List (Entry ι γ π)} (h : Unreborn (later ++ log)) :
    Unreborn log := by
  induction later with
  | nil => exact h
  | cons e later ih => exact ih h.of_cons

/-! ### What is stored after entries that leave a payment alone -/

theorem find?_replay_save (i : ι) (q : Payment) (version : Nat) (log : List (Entry ι γ π))
    (id : PaymentId) :
    (replay (.act i (.save q (.ok version)) :: log)).find? id =
      if q.id = id then some (q.withVersion version).commitEvents else (replay log).find? id := by
  rw [replay, Act.apply, Store.find?_insert]
  rfl

theorem find?_replay_cons {e : Entry ι γ π} {id : PaymentId} (h : ¬ e.Touches id)
    (log : List (Entry ι γ π)) : (replay (e :: log)).find? id = (replay log).find? id := by
  cases e with
  | delete other =>
    rw [replay, Store.find?_delete]
    exact if_neg h
  | act i a =>
    cases a with
    | save p version =>
      cases version with
      | error why => rfl
      | ok version =>
        rw [find?_replay_save]
        exact if_neg h
    | _ => rfl

theorem find?_replay_append {later : List (Entry ι γ π)} {id : PaymentId}
    (h : ∀ e ∈ later, ¬ e.Touches id) (log : List (Entry ι γ π)) :
    (replay (later ++ log)).find? id = (replay log).find? id := by
  induction later with
  | nil => rfl
  | cons e later ih =>
    rw [List.cons_append, find?_replay_cons (h e List.mem_cons_self)]
    exact ih fun e' he' => h e' (List.mem_cons_of_mem e he')

theorem replay_of_unwritten {i : ι} {a : Act γ π} (h : (Entry.act i a).written = none)
    (log : List (Entry ι γ π)) : replay (.act i a :: log) = replay log := by
  rw [replay]
  cases a with
  | save p version =>
    cases version with
    | error why => rfl
    | ok version => simp [Entry.written] at h
  | _ => rfl

/-- What is stored after an entry that writes nothing was stored before. -/
theorem find?_of_unwritten {e : Entry ι γ π} (h : e.written = none) {log : List (Entry ι γ π)}
    {id : PaymentId} {p : Payment} (hp : (replay (e :: log)).find? id = some p) :
    (replay log).find? id = some p := by
  cases e with
  | delete other =>
    rw [replay, Store.find?_delete] at hp
    split at hp
    · simp at hp
    · exact hp
  | act i a => rwa [replay_of_unwritten h] at hp

theorem find?_replay_eq_none {later : List (Entry ι γ π)} {id : PaymentId}
    (h : writesOf id later = []) {log : List (Entry ι γ π)} (hnone : (replay log).find? id = none) :
    (replay (later ++ log)).find? id = none := by
  induction later with
  | nil => exact hnone
  | cons e later ih =>
    rw [List.cons_append]
    cases e with
    | delete other =>
      rw [replay, Store.find?_delete]
      split
      · rfl
      · exact ih ((writesOf_cons_of_none rfl id later).symm.trans h)
    | act i a =>
      cases a with
      | save p version =>
        cases version with
        | error why => exact ih ((writesOf_cons_of_none rfl id later).symm.trans h)
        | ok version =>
          rw [writesOf_save] at h
          split at h
          · simp at h
          · rename_i hid
            have hother : ¬ (Entry.act i (.save p (.ok version)) : Entry ι γ π).Touches id := hid
            rw [find?_replay_cons hother]
            exact ih h
      | _ => exact ih ((writesOf_cons_of_none rfl id later).symm.trans h)

/-! ## Numbered lists -/

/-- The versions are the positions, counted from the end of the list from one. -/
def Numbered : List Payment → Prop
  | [] => True
  | p :: older => p.version = older.length + 1 ∧ Numbered older

theorem Numbered.bounds {states : List Payment} (h : Numbered states) {p : Payment}
    (hp : p ∈ states) : 1 ≤ p.version ∧ p.version ≤ states.length := by
  induction states with
  | nil => simp at hp
  | cons q older ih =>
    obtain ⟨hq, hrest⟩ := h
    rw [List.length_cons]
    rcases List.mem_cons.1 hp with rfl | hold
    · omega
    · have := ih hrest hold
      omega

theorem Numbered.eq_of_version_eq {states : List Payment} (h : Numbered states) {p q : Payment}
    (hp : p ∈ states) (hq : q ∈ states) (hv : p.version = q.version) : p = q := by
  induction states with
  | nil => simp at hp
  | cons r older ih =>
    obtain ⟨hr, hrest⟩ := h
    rcases List.mem_cons.1 hp with hpr | hpold <;> rcases List.mem_cons.1 hq with hqr | hqold
    · rw [hpr, hqr]
    · have := (hrest.bounds hqold).2
      rw [hpr] at hv
      omega
    · have := (hrest.bounds hpold).2
      rw [hqr] at hv
      omega
    · exact ih hrest hpold hqold

theorem Numbered.head_version {states : List Payment} (h : Numbered states) {p : Payment}
    (hp : states.head? = some p) : p.version = states.length := by
  cases states with
  | nil => simp at hp
  | cons q older =>
    obtain rfl := Option.some.inj hp
    exact h.1

theorem Numbered.nodup {states : List Payment} (h : Numbered states) :
    (states.map fun p => p.version).Nodup := by
  induction states with
  | nil => exact List.nodup_nil
  | cons p older ih =>
    obtain ⟨hp, hrest⟩ := h
    refine List.nodup_cons.2 ⟨fun hmem => ?_, ih hrest⟩
    obtain ⟨q, hq, hversion⟩ := List.mem_map.1 hmem
    have hbound := (hrest.bounds hq).2
    have hversion : q.version = p.version := hversion
    omega

theorem nodup_of_filter {β : Type} {f : Payment → β} {states : List Payment}
    (h : ∀ id, ((states.filter fun p => p.id = id).map f).Nodup) :
    (states.map fun p => (p.id, f p)).Nodup := by
  induction states with
  | nil => exact List.nodup_nil
  | cons p older ih =>
    refine List.nodup_cons.2 ⟨fun hmem => ?_, ih fun id => ?_⟩
    · have hkeep : (p :: older).filter (fun q => q.id = p.id) =
          p :: older.filter fun q => q.id = p.id :=
        List.filter_cons_of_pos (decide_eq_true rfl)
      have hown := h p.id
      rw [hkeep] at hown
      obtain ⟨q, hq, heq⟩ := List.mem_map.1 hmem
      obtain ⟨hid, hsame⟩ := Prod.mk.inj heq
      refine (List.nodup_cons.1 hown).1 (hsame ▸ List.mem_map_of_mem ?_)
      exact List.mem_filter.2 ⟨hq, decide_eq_true hid⟩
    · exact (((List.sublist_cons_self p older).filter _).map f).nodup (h id)

/-- From the first to the last, the versions are 1, 2, 3, … -/
theorem Numbered.versions {states : List Payment} (h : Numbered states) :
    states.reverse.map (fun p => p.version) = List.range' 1 states.length := by
  induction states with
  | nil => rfl
  | cons p older ih =>
    rw [List.reverse_cons, List.map_append, ih h.2, List.length_cons, List.range'_concat]
    simp [h.1, Nat.add_comm]

/-! ## Use cases that hold at most one payment -/

/-- What a use case holds: nothing yet, a name that it has drawn, a copy that it has loaded, or
nothing any more. -/
inductive Hold where
  | nothing
  | named (id : PaymentId)
  | copy (p : Payment)
  | spent

/-- One payment is drawn or loaded, and saved at most once, with the name and the version that it
came with. -/
inductive Hold.Step : Protocol γ π Hold
  | clock {h : Hold} {time : Instant} : Step h (.clock time) h
  | list {h : Hold} {query : Store.Query} {found : List Payment} : Step h (.list query found) h
  | pay {h : Hold} {gateway : γ} {order : RefundOrder} {reply : Except GatewayError RefundReply} :
      Step h (.pay gateway order reply) h
  | offer {h : Hold} {listener : π} {event : Event} {delivery : Delivery} :
      Step h (.offer listener event delivery) h
  | warn {h : Hold} {notice : Notice} : Step h (.warn notice) h
  | draw {id : PaymentId} : Step .nothing (.freshId id) (.named id)
  | miss {id : PaymentId} : Step .nothing (.find id none) .spent
  | load {id : PaymentId} {p : Payment} : Step .nothing (.find id (some p)) (.copy p)
  | create {id : PaymentId} {q : Payment} {version : Except Conflict Nat} (name : q.id = id)
      (unsaved : q.version = 0) : Step (.named id) (.save q version) .spent
  | change {p q : Payment} {version : Except Conflict Nat} (name : q.id = p.id)
      (unchanged : q.version = p.version) : Step (.copy p) (.save q version) .spent

/-! ## The invariant -/

/-- What holds in every run: the stored states of a payment are numbered, the newest is the one that
is stored unless it was taken out, copies are states that were stored, and a name is drawn before
anything is stored under it. -/
structure Orderly (log : List (Entry ι γ π)) (stage : ι → Hold) : Prop where
  numbered : ∀ id, Numbered (writesOf id log)
  current : ∀ id p, (replay log).find? id = some p → (writesOf id log).head? = some p
  copies : ∀ i p, stage i = .copy p → p ∈ writesOf p.id log
  named : ∀ i id, stage i = .named id → id ∈ drawn log
  written : ∀ id, writesOf id log ≠ [] → id ∈ drawn log
  single : (drawn log).Nodup → ∀ i j id, stage i = .named id → stage j = .named id → i = j
  fresh : (drawn log).Nodup → ∀ i id, stage i = .named id → writesOf id log = []
  kept : (∀ id, Entry.delete id ∉ log) →
    ∀ id, writesOf id log ≠ [] → (replay log).find? id ≠ none

theorem nextVersion_of_find?_some {s : Store} {p stored : Payment}
    (h : s.find? p.id = some stored) :
    s.nextVersion p =
      if stored.version = p.version then .ok (stored.version + 1)
      else .error (.stale p.id stored.version p.version) := by
  simp only [Store.nextVersion, h]

theorem nextVersion_of_find?_none {s : Store} {p : Payment} (h : s.find? p.id = none) :
    s.nextVersion p = if p.version = 0 then .ok 1 else .error (.missing p.id) := by
  simp only [Store.nextVersion, h]

namespace Orderly

variable {log : List (Entry ι γ π)} {stage : ι → Hold}

theorem mem_of_find? (h : Orderly log stage) {id : PaymentId} {p : Payment}
    (hp : (replay log).find? id = some p) : p ∈ writesOf id log :=
  List.mem_of_mem_head? (h.current id p hp)

/-- As long as nothing is taken out, the newest state is what is stored. -/
theorem find?_eq_head? (h : Orderly log stage) (hkept : ∀ id, Entry.delete id ∉ log)
    (id : PaymentId) : (replay log).find? id = (writesOf id log).head? := by
  cases hfind : (replay log).find? id with
  | some p => exact (h.current id p hfind).symm
  | none =>
    have hnil : writesOf id log = [] := by
      by_contra hne
      exact h.kept hkept id hne hfind
    rw [hnil]
    rfl

theorem eq_nil_of_find?_eq_none (h : Orderly log stage) (hu : Unreborn log) {i : ι}
    {id : PaymentId} (hi : stage i = .named id) (hnone : (replay log).find? id = none) :
    writesOf id log = [] := by
  rcases hu with hnodup | hkept
  · exact h.fresh hnodup i id hi
  · by_contra hne
    exact h.kept hkept id hne hnone

/-- A copy may be saved exactly as long as it is what is stored. -/
theorem nextVersion_isOk_iff (h : Orderly log stage) {p q : Payment} {i : ι}
    (hi : stage i = .copy p) (hid : q.id = p.id) (hversion : q.version = p.version) :
    (∃ version, (replay log).nextVersion q = .ok version) ↔ (replay log).find? p.id = some p := by
  have hp := h.copies i p hi
  constructor
  · rintro ⟨version, hv⟩
    cases hfind : (replay log).find? p.id with
    | none =>
      rw [nextVersion_of_find?_none (hid ▸ hfind)] at hv
      have := ((h.numbered p.id).bounds hp).1
      rw [if_neg (by omega)] at hv
      simp at hv
    | some stored =>
      rw [nextVersion_of_find?_some (hid ▸ hfind)] at hv
      split at hv
      · rename_i heq
        have hstored := h.mem_of_find? hfind
        rw [(h.numbered p.id).eq_of_version_eq hstored hp (heq.trans hversion)]
      · simp at hv
  · intro hfind
    refine ⟨p.version + 1, ?_⟩
    rw [nextVersion_of_find?_some (hid ▸ hfind), if_pos hversion.symm]

/-- The version under which a name that was drawn is saved. -/
theorem version_of_named (h : Orderly log stage) (hu : Unreborn log) {i : ι} {q : Payment}
    {version : Nat} (hi : stage i = .named q.id) (hunsaved : q.version = 0)
    (hv : (replay log).nextVersion q = .ok version) :
    writesOf q.id log = [] ∧ version = 1 := by
  cases hfind : (replay log).find? q.id with
  | none =>
    rw [nextVersion_of_find?_none hfind, if_pos hunsaved] at hv
    exact ⟨h.eq_nil_of_find?_eq_none hu hi hfind, (Except.ok.inj hv).symm⟩
  | some stored =>
    have := ((h.numbered q.id).bounds (h.mem_of_find? hfind)).1
    rw [nextVersion_of_find?_some hfind, if_neg (by omega)] at hv
    simp at hv

theorem version_of_copy (h : Orderly log stage) {i : ι} {p q : Payment} {version : Nat}
    (hi : stage i = .copy p) (hid : q.id = p.id) (hversion : q.version = p.version)
    (hv : (replay log).nextVersion q = .ok version) :
    (replay log).find? p.id = some p ∧ version = p.version + 1 := by
  have hfind := (h.nextVersion_isOk_iff hi hid hversion).1 ⟨version, hv⟩
  rw [nextVersion_of_find?_some (hid ▸ hfind), if_pos hversion.symm] at hv
  exact ⟨hfind, (Except.ok.inj hv).symm⟩

/-- A copy that is stored at one time is stored later exactly if nothing has touched it since. -/
theorem find?_append_iff {later : List (Entry ι γ π)} {stage' : ι → Hold}
    (h : Orderly log stage) (h' : Orderly (later ++ log) stage') {id : PaymentId} {p : Payment}
    (hp : (replay log).find? id = some p) :
    (replay (later ++ log)).find? id = some p ↔ ∀ e ∈ later, ¬ e.Touches id := by
  constructor
  · intro hp'
    -- the number of stored states is the version of the stored one, so none was added
    have hbefore := (h.numbered id).head_version (h.current id p hp)
    have hafter := (h'.numbered id).head_version (h'.current id p hp')
    rw [writesOf_append, List.length_append] at hafter
    have hnone : writesOf id later = [] := List.eq_nil_of_length_eq_zero (by omega)
    intro e he htouch
    obtain ⟨newer, older, rfl⟩ := List.append_of_mem he
    rw [writesOf_append, List.append_eq_nil_iff] at hnone
    obtain ⟨hnewer, hrest⟩ := hnone
    cases e with
    | delete other =>
      have hgone : (replay (.delete other :: (older ++ log))).find? id = none := by
        rw [replay, Store.find?_delete]
        exact if_pos htouch
      have := find?_replay_eq_none hnewer hgone
      rw [List.append_assoc, List.cons_append, this] at hp'
      simp at hp'
    | act i a =>
      cases a with
      | save q version =>
        cases version with
        | error why => exact htouch
        | ok version =>
          rw [writesOf_save] at hrest
          have hid : q.id = id := htouch
          rw [if_pos hid] at hrest
          simp at hrest
      | _ => exact htouch
  · intro huntouched
    rw [find?_replay_append huntouched, hp]

/-! ### One step keeps the invariant -/

theorem opened : Orderly ([] : List (Entry ι γ π)) fun _ => .nothing where
  numbered _ := trivial
  current _ _ hp := by simp [replay] at hp
  copies _ _ hi := by simp at hi
  named _ _ hi := by simp at hi
  written _ hne := absurd rfl hne
  single _ _ _ _ hi := by simp at hi
  fresh _ _ _ _ := rfl
  kept _ _ hne := absurd rfl hne

/-- An entry that stores nothing and draws no name, after which everyone holds at most the name that
he held before. -/
theorem frame (h : Orderly log stage) {e : Entry ι γ π} {stage' : ι → Hold}
    (hwritten : e.written = none) (hdrawn : e.drawnId = none)
    (hnames : ∀ i id, stage' i = .named id → stage i = .named id)
    (hcopies : ∀ i p, stage' i = .copy p → p ∈ writesOf p.id log) :
    Orderly (e :: log) stage' := by
  have hwritesOf := fun id => writesOf_cons_of_none hwritten id log
  have hdrawnOf := drawn_cons_of_none hdrawn log
  constructor
  case numbered => exact fun id => (hwritesOf id).symm ▸ h.numbered id
  case current =>
    intro id p hp
    rw [hwritesOf]
    exact h.current id p (find?_of_unwritten hwritten hp)
  case copies => exact fun i p hi => (hwritesOf p.id).symm ▸ hcopies i p hi
  case named => exact fun i id hi => hdrawnOf.symm ▸ h.named i id (hnames i id hi)
  case written => exact fun id hne => hdrawnOf.symm ▸ h.written id (hwritesOf id ▸ hne)
  case single =>
    intro hnodup i j id hi hj
    exact h.single (hdrawnOf ▸ hnodup) i j id (hnames i id hi) (hnames j id hj)
  case fresh =>
    intro hnodup i id hi
    rw [hwritesOf]
    exact h.fresh (hdrawnOf ▸ hnodup) i id (hnames i id hi)
  case kept =>
    intro hkept id hne
    cases e with
    | delete other => exact absurd List.mem_cons_self (hkept other)
    | act i a =>
      rw [replay_of_unwritten hwritten]
      exact h.kept (fun id' hmem => hkept id' (List.mem_cons_of_mem _ hmem)) id (hwritesOf id ▸ hne)

theorem delete (h : Orderly log stage) (id : PaymentId) : Orderly (.delete id :: log) stage :=
  h.frame rfl rfl (fun _ _ hi => hi) h.copies

end Orderly

section Steps

variable [DecidableEq ι] {log : List (Entry ι γ π)} {stage : ι → Hold}

theorem stage_of_update {i j : ι} {t h : Hold} (hne : t ≠ h)
    (hj : Function.update stage i t j = h) : j ≠ i ∧ stage j = h := by
  by_cases hji : j = i
  · subst hji
    rw [Function.update_self] at hj
    exact absurd hj hne
  · rw [Function.update_of_ne hji] at hj
    exact ⟨hji, hj⟩

/-- An entry that writes nothing and draws no name, after which its use case holds the same or is
spent. -/
theorem Orderly.idle (h : Orderly log stage) {i : ι} {a : Act γ π} {t : Hold}
    (hwritten : (Entry.act i a).written = none) (hdrawn : (Entry.act i a).drawnId = none)
    (ht : t = stage i ∨ t = .spent) : Orderly (.act i a :: log) (Function.update stage i t) := by
  have hstage : ∀ {j k}, k ≠ Hold.spent → Function.update stage i t j = k → stage j = k := by
    intro j k hk hj
    by_cases hji : j = i
    · subst hji
      rw [Function.update_self] at hj
      rcases ht with hsame | hspent
      · rw [← hsame, hj]
      · exact absurd (hj.symm.trans hspent) hk
    · rwa [Function.update_of_ne hji] at hj
  refine h.frame hwritten hdrawn (fun j id hj => ?_) fun j p hj => ?_
  · exact hstage (by simp) hj
  · exact h.copies j p (hstage (by simp) hj)

/-- A name is drawn. -/
theorem Orderly.draw (h : Orderly log stage) (i : ι) (id : PaymentId) :
    Orderly (.act i (.freshId id) :: log) (Function.update stage i (.named id)) := by
  have hdrawnId : (Entry.act i (.freshId id) : Entry ι γ π).drawnId = some id := rfl
  have hdrawn : drawn (.act i (.freshId id) :: log) = id :: drawn log := by
    unfold drawn
    rw [List.filterMap_cons_some hdrawnId]
  have hwritesOf := fun other => writesOf_cons_of_none
    (show (Entry.act i (.freshId id) : Entry ι γ π).written = none from rfl) other log
  -- a name that somebody else holds is another one, if no name is drawn twice
  have hother : (id :: drawn log).Nodup → ∀ j, stage j ≠ .named id :=
    fun hnodup j hj => (List.nodup_cons.1 hnodup).1 (h.named j id hj)
  constructor
  case numbered => exact fun other => (hwritesOf other).symm ▸ h.numbered other
  case current => exact fun other p hp => (hwritesOf other).symm ▸ h.current other p hp
  case copies =>
    intro j p hj
    rw [hwritesOf]
    exact h.copies j p (stage_of_update (by simp) hj).2
  case named =>
    intro j other hj
    rw [hdrawn]
    by_cases hother : (Hold.named id) = .named other
    · cases hother
      exact List.mem_cons_self
    · exact List.mem_cons_of_mem id (h.named j other (stage_of_update hother hj).2)
  case written =>
    intro other hne
    rw [hdrawn]
    exact List.mem_cons_of_mem id (h.written other (hwritesOf other ▸ hne))
  case single =>
    rw [hdrawn]
    intro hnodup j k other hj hk
    by_cases hid : id = other
    · subst hid
      have hi : ∀ l, Function.update stage i (.named id) l = .named id → l = i := by
        intro l hl
        by_contra hne
        rw [Function.update_of_ne hne] at hl
        exact hother hnodup l hl
      rw [hi j hj, hi k hk]
    · have hne : (Hold.named id) ≠ .named other := by simpa using hid
      exact h.single (List.nodup_cons.1 hnodup).2 j k other (stage_of_update hne hj).2
        (stage_of_update hne hk).2
  case fresh =>
    rw [hdrawn]
    intro hnodup j other hj
    rw [hwritesOf]
    by_cases hid : id = other
    · subst hid
      by_contra hne
      exact (List.nodup_cons.1 hnodup).1 (h.written id hne)
    · have hne : (Hold.named id) ≠ .named other := by simpa using hid
      exact h.fresh (List.nodup_cons.1 hnodup).2 j other (stage_of_update hne hj).2
  case kept =>
    intro hkept other hne
    exact h.kept (fun id' hmem => hkept id' (List.mem_cons_of_mem _ hmem)) other
      (hwritesOf other ▸ hne)

theorem Orderly.load (h : Orderly log stage) (i : ι) {id : PaymentId} {p : Payment}
    (hp : (replay log).find? id = some p) :
    Orderly (.act i (.find id (some p)) :: log) (Function.update stage i (.copy p)) := by
  refine h.frame rfl rfl (fun j other hj => ?_) fun j q hj => ?_
  · exact (stage_of_update (by simp) hj).2
  · by_cases hpq : (Hold.copy p) = .copy q
    · cases hpq
      have hmem := h.mem_of_find? hp
      rwa [id_of_mem_writesOf hmem]
    · exact h.copies j q (stage_of_update hpq hj).2

/-- A save is accepted, under the number of the states that were stored before and one. -/
theorem Orderly.write (h : Orderly log stage) {i : ι} {q : Payment} {version : Nat}
    (hversion : version = (writesOf q.id log).length + 1) (hdrawn : q.id ∈ drawn log)
    (hnamed : (drawn log).Nodup → ∀ j, j ≠ i → stage j ≠ .named q.id) :
    Orderly (.act i (.save q (.ok version)) :: log) (Function.update stage i .spent) := by
  have hdrawnOf := drawn_cons_of_none
    (show (Entry.act i (.save q (.ok version)) : Entry ι γ π).drawnId = none from rfl) log
  have hstored := find?_replay_save i q version log
  constructor
  case numbered =>
    intro id
    rw [writesOf_save]
    split
    · rename_i hid
      subst hid
      exact ⟨hversion, h.numbered q.id⟩
    · exact h.numbered id
  case current =>
    intro id p hp
    rw [hstored] at hp
    rw [writesOf_save]
    split at hp
    · rename_i hid
      rw [if_pos hid]
      exact hp
    · rename_i hid
      rw [if_neg hid]
      exact h.current id p hp
  case copies =>
    intro j p hj
    have hmem := h.copies j p (stage_of_update (by simp) hj).2
    rw [writesOf_save]
    split
    · exact List.mem_cons_of_mem _ hmem
    · exact hmem
  case named =>
    intro j id hj
    rw [hdrawnOf]
    exact h.named j id (stage_of_update (by simp) hj).2
  case written =>
    intro id hne
    rw [hdrawnOf]
    rw [writesOf_save] at hne
    split at hne
    · rename_i hid
      exact hid ▸ hdrawn
    · exact h.written id hne
  case single =>
    intro hnodup j k id hj hk
    exact h.single (hdrawnOf ▸ hnodup) j k id (stage_of_update (by simp) hj).2
      (stage_of_update (by simp) hk).2
  case fresh =>
    intro hnodup j id hj
    rw [hdrawnOf] at hnodup
    obtain ⟨hji, hj⟩ := stage_of_update (by simp) hj
    rw [writesOf_save, if_neg]
    · exact h.fresh hnodup j id hj
    · rintro rfl
      exact hnamed hnodup j hji hj
  case kept =>
    intro hkept id hne
    rw [hstored]
    rw [writesOf_save] at hne
    split
    · simp
    · rename_i hid
      rw [if_neg hid] at hne
      exact h.kept (fun id' hmem => hkept id' (List.mem_cons_of_mem _ hmem)) id hne

/-- Every step that the protocol permits keeps the invariant. -/
theorem Orderly.act (h : Orderly log stage) (hu : Unreborn log) {i : ι} {a : Act γ π} {t : Hold}
    (hfits : a.Fits (replay log)) (hstep : Hold.Step (stage i) a t) :
    Orderly (.act i a :: log) (Function.update stage i t) := by
  generalize hi : stage i = before at hstep
  cases hstep with
  | clock => exact h.idle rfl rfl (.inl hi.symm)
  | list => exact h.idle rfl rfl (.inl hi.symm)
  | pay => exact h.idle rfl rfl (.inl hi.symm)
  | offer => exact h.idle rfl rfl (.inl hi.symm)
  | warn => exact h.idle rfl rfl (.inl hi.symm)
  | draw => exact h.draw i _
  | miss => exact h.idle rfl rfl (.inr rfl)
  | load => exact h.load i hfits.symm
  | @create id q version hid hunsaved =>
    subst hid
    cases version with
    | error why => exact h.idle rfl rfl (.inr rfl)
    | ok version =>
      obtain ⟨hnil, rfl⟩ := h.version_of_named hu hi hunsaved hfits.symm
      refine h.write (by rw [hnil]; rfl) (h.named i q.id hi) fun hnodup j hj hname => ?_
      exact hj (h.single hnodup j i q.id hname hi)
  | @change p q version hid hversion =>
    cases version with
    | error why => exact h.idle rfl rfl (.inr rfl)
    | ok version =>
      obtain ⟨hfind, rfl⟩ := h.version_of_copy hi hid hversion hfits.symm
      have hmem : writesOf q.id log ≠ [] := by
        rw [hid]
        exact List.ne_nil_of_mem (h.copies i p hi)
      refine h.write ?_ (h.written q.id hmem) fun hnodup j _ hname => ?_
      · rw [hid, ← (h.numbered p.id).head_version (h.current p.id p hfind)]
      · exact hmem (h.fresh hnodup j q.id hname)

theorem orderly_of_run (h : Run Hold.Step (fun _ => .nothing) log stage) (hu : Unreborn log) :
    Orderly log stage := by
  induction h with
  | nil => exact .opened
  | act _ hfits hpermitted ih => exact (ih hu.of_cons).act hu.of_cons hfits hpermitted
  | delete _ ih => exact (ih hu.of_cons).delete _

/-! ## What follows for saves -/

/-- A use case loads once: what it has loaded is what it holds, until it holds nothing any more. -/
theorem stage_of_mem_find (h : Run Hold.Step (fun _ => .nothing) log stage) {i : ι} {id : PaymentId}
    {p : Payment} (hmem : Entry.act i (.find id (some p)) ∈ log) :
    stage i = .copy p ∨ stage i = .spent := by
  refine h.of_mem (P := fun held => held = .copy p ∨ held = .spent) (fun s t hstep => ?_)
    (fun s b t hs hstep => ?_) hmem
  · cases hstep
    exact .inl rfl
  · rcases hs with rfl | rfl
    · cases hstep <;> simp
    · cases hstep <;> simp

/-- A save of a loaded copy is accepted exactly if nothing has touched the payment since the copy
was loaded. -/
theorem save_isOk_iff {between earlier : List (Entry ι γ π)} {i : ι} {id : PaymentId}
    {p q : Payment} {version : Except Conflict Nat}
    (h : Run Hold.Step (fun _ => .nothing)
      (.act i (.save q version) :: (between ++ .act i (.find id (some p)) :: earlier)) stage)
    (hu : Unreborn (between ++ .act i (.find id (some p)) :: earlier)) :
    (∃ v, version = .ok v) ↔ ∀ e ∈ between, ¬ e.Touches id := by
  cases h with
  | @act _ before _ _ _ hrun hfits hpermitted =>
    have horderly := orderly_of_run hrun hu
    obtain ⟨_, hloadRun⟩ := hrun.of_append
    have hloaded := orderly_of_run hloadRun hu.of_append
    have hp : (replay (.act i (.find id (some p)) :: earlier)).find? id = some p := by
      cases hloadRun with
      | act _ hfits _ => exact hfits.symm
    have hid : p.id = id := (find?_replay hp).1
    have hmem : Entry.act i (.find id (some p)) ∈
        between ++ .act i (.find id (some p)) :: earlier :=
      List.mem_append_right between List.mem_cons_self
    have hstage := stage_of_mem_find hrun hmem
    have hcopy : before i = .copy p ∧ q.id = p.id ∧ q.version = p.version := by
      generalize before i = held at hpermitted hstage
      rcases hstage with rfl | rfl
      · cases hpermitted with
        | change hname hversion => exact ⟨rfl, hname, hversion⟩
      · cases hpermitted
    obtain ⟨hcopy, hname, hversion⟩ := hcopy
    change version = (replay _).nextVersion q at hfits
    have hfind := horderly.nextVersion_isOk_iff hcopy hname hversion
    rw [hfits, hfind, hid]
    exact hloaded.find?_append_iff horderly hp

end Steps

end Paydesk
