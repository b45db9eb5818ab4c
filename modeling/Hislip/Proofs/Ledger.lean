import Mathlib.Data.List.Basic

/-! How client and server agree on RMT-delivered, with nothing left of the messages
but what the agreement is about. Each DataEnd is a token: it travels to the client
and comes back on the next message, and the server's expectation has to match the
tokens that are on their way. -/

namespace Hislip.Proofs.Ledger

/-- Where the synchronous loop is in the handling of a program message: `wrote` is
between the write of a DataEnd and the expectation that belongs to it. -/
inductive Stage where
  | resting | judged | answering | wrote
  | taken (delivered : Bool)
  | committed (delivered : Bool)
  deriving DecidableEq, Repr

def Stage.ahead : Stage → List Bool
  | .taken delivered | .committed delivered => [delivered]
  | _ => []

inductive Poll where
  | idle | polled | answered | lost
  | sent (delivered : Bool)
  | held (delivered : Bool)
  deriving DecidableEq, Repr

def Poll.flagged : Poll → Nat
  | .sent true | .held true => 1
  | _ => 0

/-- Where the client's Device Clear is. A handler that gives up leaves it `refused`
before the session is clearing, `unanswered` or `stuck` while it is, and `silent`
afterwards. -/
inductive Clear where
  | idle
  | requested | preparing | refused
  | begun | unanswered | agreed | acknowledged | completed | resetting | stuck
  | reset | returned | silent
  deriving DecidableEq, Repr

namespace Clear

def early : Clear → Bool
  | .requested | .preparing | .refused => true
  | _ => false

def clearing : Clear → Bool
  | .begun | .unanswered | .agreed | .acknowledged | .completed | .resetting | .stuck => true
  | _ => false

def late : Clear → Bool
  | .reset | .returned | .silent => true
  | _ => false

/-- A step from one to the other leaves the phase of the Device Clear as it is. -/
def Alike (before after : Clear) : Prop :=
  before ≠ .idle ∧ after ≠ .idle ∧ after ≠ .resetting ∧ after.early = before.early ∧
    after.clearing = before.clearing ∧ after.late = before.late

instance (before after : Clear) : Decidable (Alike before after) := inferInstanceAs (Decidable (_ ∧ _))

def abandoned : Clear → Clear
  | .preparing => .refused
  | .begun => .unanswered
  | .resetting => .stuck
  | .reset => .silent
  | clear => clear

theorem abandoned_alike (clear : Clear) : clear.abandoned = clear ∨ clear.Alike clear.abandoned := by
  cases clear <;> decide

end Clear

end Hislip.Proofs.Ledger

namespace Hislip.Proofs
open Ledger

/-- `owes` is set while the client has consumed a DataEnd and not yet said so, and
`outstanding` while the DataEnd of a query is still to come. `programs` has the flags
of the program messages on the wire and `ends` counts the DataEnds there. -/
structure Ledger where
  owes : Bool := false
  outstanding : Bool := false
  programs : List Bool := []
  ends : Nat := 0
  stage : Stage := .resting
  expected : Bool := false
  poll : Poll := .idle
  clear : Clear := .idle

namespace Ledger

/-- One step of the client or of a loop. The client flags what it sends with `owes`,
sends nothing while it waits for a status response, and no program message while a
DataEnd is outstanding. It starts a Device Clear with nothing owed, and a query is
recognised with nothing sent behind it. A status query that reports a DataEnd finds
the expectation raised. -/
inductive Step (ledger : Ledger) : Ledger → Prop where
  | program (free : ledger.poll = .idle) (answered : ledger.outstanding = false) (idle : ledger.clear = .idle) :
    Step ledger { ledger with programs := ledger.programs ++ [ledger.owes], owes := false }
  | consume {rest : Nat} (next : ledger.ends = rest + 1) (idle : ledger.clear = .idle) :
    Step ledger { ledger with ends := rest, owes := true, outstanding := false }
  | discard {rest : Nat} (next : ledger.ends = rest + 1) (busy : ledger.clear ≠ .idle) :
    Step ledger { ledger with ends := rest }
  | take {delivered : Bool} {rest : List Bool} (next : ledger.programs = delivered :: rest)
    (resting : ledger.stage = .resting) : Step ledger { ledger with programs := rest, stage := .taken delivered }
  | commit {delivered : Bool} (taken : ledger.stage = .taken delivered) (ready : ledger.clear.clearing = false) :
    Step ledger { ledger with stage := .committed delivered }
  | drop {delivered : Bool} (taken : ledger.stage = .taken delivered) (clearing : ledger.clear.clearing = true) :
    Step ledger { ledger with stage := .resting }
  | judge {delivered : Bool} (committed : ledger.stage = .committed delivered) :
    Step ledger { ledger with stage := .judged, expected := false }
  | classify (judged : ledger.stage = .judged) (last : ledger.programs = []) :
    Step ledger { ledger with stage := .answering, outstanding := true }
  | writeEnd (answering : ledger.stage = .answering) :
    Step ledger { ledger with stage := .wrote, ends := ledger.ends + 1 }
  | raise (wrote : ledger.stage = .wrote) : Step ledger { ledger with stage := .resting, expected := true }
  | rest (done : ledger.stage = .judged ∨ ledger.stage = .answering) : Step ledger { ledger with stage := .resting }
  | query (free : ledger.poll = .idle) : Step ledger { ledger with poll := .sent ledger.owes, owes := false }
  | takeQuery {delivered : Bool} (sent : ledger.poll = .sent delivered) :
    Step ledger { ledger with poll := .held delivered }
  | poll (held : ledger.poll = .held false) : Step ledger { ledger with poll := .polled }
  | pollDelivered (held : ledger.poll = .held true) (raised : ledger.stage ≠ .wrote) :
    Step ledger { ledger with poll := .polled, expected := false }
  | respond (polled : ledger.poll = .polled) : Step ledger { ledger with poll := .answered }
  | loseQuery (polled : ledger.poll = .polled) : Step ledger { ledger with poll := .lost }
  | answered (answered : ledger.poll = .answered) : Step ledger { ledger with poll := .idle }
  | clear (free : ledger.poll = .idle) (idle : ledger.clear = .idle) (settled : ledger.owes = false) :
    Step ledger { ledger with clear := .requested }
  | takeClear (requested : ledger.clear = .requested) : Step ledger { ledger with clear := .preparing }
  | begin (preparing : ledger.clear = .preparing) : Step ledger { ledger with clear := .begun }
  | agree (begun : ledger.clear = .begun) : Step ledger { ledger with clear := .agreed }
  | agreed (agreed : ledger.clear = .agreed) : Step ledger { ledger with clear := .acknowledged }
  | complete (acknowledged : ledger.clear = .acknowledged) : Step ledger { ledger with clear := .completed }
  | takeComplete (completed : ledger.clear = .completed) (first : ledger.programs = [])
    (resting : ledger.stage = .resting) : Step ledger { ledger with clear := .resetting }
  | reset (resetting : ledger.clear = .resetting) : Step ledger { ledger with clear := .reset, expected := false }
  | acknowledge (reset : ledger.clear = .reset) : Step ledger { ledger with clear := .returned }
  | cleared (returned : ledger.clear = .returned) (first : ledger.ends = 0) :
    Step ledger { ledger with clear := .idle, outstanding := false }
  | abandon : Step ledger { ledger with clear := ledger.clear.abandoned }

def pipeline (ledger : Ledger) : List Bool := ledger.stage.ahead ++ ledger.programs

/-- The DataEnds the client has not reported in a program message. -/
def tokens (ledger : Ledger) : Nat := ledger.owes.toNat + ledger.ends + ledger.poll.flagged

/-- The DataEnds that the server has accounted for or is about to. -/
def credit (ledger : Ledger) : Nat := ledger.expected.toNat + if ledger.stage = .wrote then 1 else 0

/-- The next message reports what the server expects, and those behind it nothing. -/
def Matched (credit : Nat) : List Bool → Prop
  | [] => True
  | next :: rest => next.toNat = credit ∧ ∀ delivered ∈ rest, delivered = false

structure Balanced (ledger : Ledger) : Prop where
  spent : ledger.stage = .judged ∨ ledger.stage = .answering ∨ ledger.stage = .wrote → ledger.expected = false
  last : ledger.stage = .answering → ledger.programs = []
  waits : ledger.clear = .idle → ledger.stage = .answering ∨ 0 < ledger.ends → ledger.outstanding = true
  settled : ledger.clear ≠ .idle → ledger.owes = false ∧ ledger.poll.flagged = 0
  tokens : ledger.clear = .idle → if ledger.pipeline = [] then ledger.tokens = ledger.credit else ledger.tokens = 0
  matched : ledger.clear = .idle ∨ ledger.clear.early = true → Matched ledger.credit ledger.pipeline
  committed : ∀ delivered, ledger.clear.clearing = true → ledger.stage = .committed delivered →
    ledger.expected = delivered
  resetting : ledger.clear = .resetting → ledger.stage = .resting ∧ ledger.programs = []
  late : ledger.clear.late = true → ledger.stage = .resting ∧ ledger.programs = [] ∧ ledger.expected = false

private theorem toNat_injective {first second : Bool} (same : second.toNat = first.toNat) : first = second := by
  cases first <;> cases second <;> first | rfl | cases same

theorem Matched.append {credit : Nat} {flags : List Bool} (matched : Matched credit flags) (some : flags ≠ []) :
    Matched credit (flags ++ [false]) := by
  cases flags with
  | nil => exact absurd rfl some
  | cons next rest =>
    refine ⟨matched.1, fun delivered member => ?_⟩
    obtain earlier | last := List.mem_append.mp member
    · exact matched.2 delivered earlier
    · exact List.mem_singleton.mp last

theorem Matched.tail {credit : Nat} {next : Bool} {rest : List Bool} (matched : Matched credit (next :: rest)) :
    Matched 0 rest := by
  cases rest with
  | nil => trivial
  | cons following others =>
    refine ⟨by rw [matched.2 following List.mem_cons_self]; rfl, fun delivered member => ?_⟩
    exact matched.2 delivered (List.mem_cons_of_mem _ member)

namespace Balanced
variable {ledger : Ledger} {delivered : Bool}

theorem ofIdle (idle : ledger.clear = .idle)
    (spent : ledger.stage = .judged ∨ ledger.stage = .answering ∨ ledger.stage = .wrote → ledger.expected = false)
    (last : ledger.stage = .answering → ledger.programs = [])
    (waits : ledger.stage = .answering ∨ 0 < ledger.ends → ledger.outstanding = true)
    (tokens : if ledger.pipeline = [] then ledger.tokens = ledger.credit else ledger.tokens = 0)
    (matched : Matched ledger.credit ledger.pipeline) : Balanced ledger where
  spent
  last
  waits _ := waits
  settled busy := absurd idle busy
  tokens _ := tokens
  matched _ := matched
  committed _ clearing := by rw [idle] at clearing; cases clearing
  resetting busy := by rw [idle] at busy; cases busy
  late busy := by rw [idle] at busy; cases busy

theorem initially : Balanced {} := ofIdle rfl nofun nofun (by decide) rfl trivial

theorem credit_le (balanced : Balanced ledger) : ledger.credit ≤ 1 := by
  unfold credit
  split
  next wrote => simp [balanced.spent (.inr (.inr wrote))]
  next => exact Bool.toNat_le _

theorem credit_eq (other : ledger.stage ≠ .wrote) : ledger.credit = ledger.expected.toNat := by
  simp [credit, other]

theorem carries (balanced : Balanced ledger) (idle : ledger.clear = .idle) (some : 0 < ledger.tokens) :
    ledger.pipeline = [] ∧ ledger.tokens = 1 ∧ ledger.credit = 1 := by
  have tokens := balanced.tokens idle
  have bound := balanced.credit_le
  split at tokens
  next none => exact ⟨none, by omega, by omega⟩
  next => omega

theorem program (balanced : Balanced ledger) (free : ledger.poll = .idle) (answered : ledger.outstanding = false)
    (idle : ledger.clear = .idle) :
    Balanced { ledger with programs := ledger.programs ++ [ledger.owes], owes := false } := by
  have quiet : ¬ (ledger.stage = .answering ∨ 0 < ledger.ends) := fun busy => by
    have waits := balanced.waits idle busy
    rw [answered] at waits
    cases waits
  have ends : ledger.ends = 0 := by omega
  have tokens := balanced.tokens idle
  have longer : ledger.stage.ahead ++ (ledger.programs ++ [ledger.owes]) = ledger.pipeline ++ [ledger.owes] :=
    (List.append_assoc ..).symm
  refine ofIdle idle balanced.spent (fun answering => absurd (.inl answering) quiet) (balanced.waits idle) ?_ ?_
  · simp [pipeline, Ledger.tokens, ends, free, Poll.flagged]
  · change Matched ledger.credit (ledger.stage.ahead ++ (ledger.programs ++ [ledger.owes]))
    rw [longer]
    by_cases empty : ledger.pipeline = []
    · rw [if_pos empty] at tokens
      rw [empty, ← tokens]
      exact ⟨by simp [Ledger.tokens, ends, free, Poll.flagged], fun _ => nofun⟩
    · rw [if_neg empty] at tokens
      have settled : ledger.owes = false := by simpa [Ledger.tokens, ends] using (Nat.add_eq_zero_iff.mp tokens).1
      rw [settled]
      exact (balanced.matched (.inl idle)).append empty

theorem consume (balanced : Balanced ledger) {rest : Nat} (next : ledger.ends = rest + 1)
    (idle : ledger.clear = .idle) : Balanced { ledger with ends := rest, owes := true, outstanding := false } := by
  have counted : ledger.tokens = ledger.owes.toNat + (rest + 1) + ledger.poll.flagged := by rw [Ledger.tokens, next]
  obtain ⟨empty, one, credit⟩ := balanced.carries idle (by omega)
  have last : rest = 0 := by omega
  have flagged : ledger.poll.flagged = 0 := by omega
  refine ofIdle idle balanced.spent balanced.last ?_ ?_ (balanced.matched (.inl idle))
  · rintro (answering | more)
    · have answering : ledger.stage = .answering := answering
      rw [credit_eq (by rw [answering]; nofun), balanced.spent (.inr (.inl answering))] at credit
      cases credit
    · exact absurd last (Nat.ne_of_gt more)
  · change if ledger.pipeline = [] then _ = ledger.credit else _
    rw [if_pos empty, credit]
    simp [Ledger.tokens, last, flagged]

/-- While a Device Clear is under way the DataEnds on the wire do not count. -/
theorem discard (balanced : Balanced ledger) (busy : ledger.clear ≠ .idle) (ends : Nat) :
    Balanced { ledger with ends } where
  spent := balanced.spent
  last := balanced.last
  waits idle := absurd idle busy
  settled := balanced.settled
  tokens idle := absurd idle busy
  matched := balanced.matched
  committed := balanced.committed
  resetting := balanced.resetting
  late := balanced.late

/-- The end of a Device Clear is not being handled, and the client is not about to
hear of it. -/
def Working (ledger : Ledger) : Prop := ledger.clear ≠ .resetting ∧ ledger.clear.late = false

section
variable (balanced : Balanced ledger)
include balanced

theorem working (works : ledger.stage ≠ .resting) : Working ledger :=
  ⟨fun resetting => works (balanced.resetting resetting).1,
    Bool.eq_false_iff.mpr fun late => works (balanced.late late).1⟩

theorem restage (working : Working ledger) {programs : List Bool} {stage : Stage} {expected outstanding : Bool}
    (pipeline : ledger.pipeline = stage.ahead ++ programs)
    (credit : ledger.credit = expected.toNat + if stage = .wrote then 1 else 0)
    (spent : stage = .judged ∨ stage = .answering ∨ stage = .wrote → expected = false)
    (last : stage = .answering → programs = [])
    (waits : ledger.clear = .idle → stage = .answering ∨ 0 < ledger.ends → outstanding = true)
    (ready : ∀ delivered, stage = .committed delivered → ledger.clear.clearing = false) :
    Balanced { ledger with programs, stage, expected, outstanding } where
  spent
  last
  waits
  settled := balanced.settled
  tokens idle := by
    have tokens := balanced.tokens idle
    rw [pipeline, credit] at tokens
    exact tokens
  matched phase := by
    have matched := balanced.matched phase
    rw [pipeline, credit] at matched
    exact matched
  committed delivered clearing committed := absurd clearing (by rw [ready delivered committed]; nofun)
  resetting resetting := absurd resetting working.1
  late late := absurd late (by rw [working.2]; nofun)

theorem take {rest : List Bool} (next : ledger.programs = delivered :: rest) (resting : ledger.stage = .resting) :
    Balanced { ledger with programs := rest, stage := .taken delivered } := by
  have working : Working ledger := by
    refine ⟨fun resetting => ?_, Bool.eq_false_iff.mpr fun late => ?_⟩
    · rw [(balanced.resetting resetting).2] at next
      cases next
    · rw [(balanced.late late).2.1] at next
      cases next
  refine balanced.restage working ?_ (credit_eq (by rw [resting]; nofun)) nofun nofun
    (fun idle busy => balanced.waits idle (busy.imp_left nofun)) (fun _ => nofun)
  rw [Ledger.pipeline, resting, next]
  rfl

theorem commit (taken : ledger.stage = .taken delivered) (ready : ledger.clear.clearing = false) :
    Balanced { ledger with stage := .committed delivered } := by
  refine balanced.restage (balanced.working (by rw [taken]; nofun)) ?_ (credit_eq (by rw [taken]; nofun)) nofun nofun
    (fun idle busy => balanced.waits idle (busy.imp_left nofun)) (fun _ _ => ready)
  rw [Ledger.pipeline, taken]
  rfl

theorem classify (judged : ledger.stage = .judged) (last : ledger.programs = []) :
    Balanced { ledger with stage := .answering, outstanding := true } := by
  refine balanced.restage (balanced.working (by rw [judged]; nofun)) ?_ (credit_eq (by rw [judged]; nofun))
    (fun _ => balanced.spent (.inl judged)) (fun _ => last) (fun _ _ => rfl) (fun _ => nofun)
  rw [Ledger.pipeline, judged]
  rfl

theorem raise (wrote : ledger.stage = .wrote) : Balanced { ledger with stage := .resting, expected := true } := by
  refine balanced.restage (balanced.working (by rw [wrote]; nofun)) ?_ ?_ nofun nofun
    (fun idle busy => balanced.waits idle (busy.imp_left nofun)) (fun _ => nofun)
  · rw [Ledger.pipeline, wrote]
    rfl
  · simp [Ledger.credit, wrote, balanced.spent (.inr (.inr wrote))]

theorem rest (done : ledger.stage = .judged ∨ ledger.stage = .answering) :
    Balanced { ledger with stage := .resting } := by
  have other : ledger.stage ≠ .resting ∧ ledger.stage ≠ .wrote ∧ ledger.stage.ahead = [] := by
    obtain judged | answering := done
    · rw [judged]; exact ⟨nofun, nofun, rfl⟩
    · rw [answering]; exact ⟨nofun, nofun, rfl⟩
  refine balanced.restage (balanced.working other.1) ?_ (credit_eq other.2.1) nofun nofun
    (fun idle busy => balanced.waits idle (busy.imp_left nofun)) (fun _ => nofun)
  rw [Ledger.pipeline, other.2.2]
  rfl

theorem drop (taken : ledger.stage = .taken delivered) (clearing : ledger.clear.clearing = true) :
    Balanced { ledger with stage := .resting } := by
  have works := balanced.working (by rw [taken]; nofun)
  have busy : ledger.clear ≠ .idle := fun idle => by rw [idle] at clearing; cases clearing
  have begun : ¬ ledger.clear.early = true := fun early => by
    revert early clearing
    cases ledger.clear <;> nofun
  exact ⟨nofun, nofun, fun idle => absurd idle busy, balanced.settled, fun idle => absurd idle busy,
    fun phase => absurd phase (not_or.mpr ⟨busy, begun⟩), fun _ _ => nofun, fun resetting => absurd resetting works.1,
    fun late => absurd late (by rw [works.2]; nofun)⟩

theorem judge (committed : ledger.stage = .committed delivered) :
    Balanced { ledger with stage := .judged, expected := false } := by
  have works := balanced.working (by rw [committed]; nofun)
  have pipeline : ledger.pipeline = delivered :: ledger.programs := by rw [Ledger.pipeline, committed]; rfl
  refine ⟨fun _ => rfl, nofun, fun idle busy => balanced.waits idle (busy.imp_left nofun), balanced.settled,
    fun idle => ?_, fun phase => ?_, fun _ _ => nofun, fun resetting => absurd resetting works.1,
    fun late => absurd late (by rw [works.2]; nofun)⟩
  · have tokens : ledger.tokens = 0 := (if_neg (by rw [pipeline]; nofun)).mp (balanced.tokens idle)
    split <;> exact tokens
  · have matched := balanced.matched phase
    rw [pipeline] at matched
    exact matched.tail

theorem writeEnd (answering : ledger.stage = .answering) :
    Balanced { ledger with stage := .wrote, ends := ledger.ends + 1 } := by
  have works := balanced.working (by rw [answering]; nofun)
  have last := balanced.last answering
  have expected := balanced.spent (.inr (.inl answering))
  have pipeline : ledger.pipeline = [] := by rw [Ledger.pipeline, answering, last]; rfl
  have credit : ledger.credit = 0 := by rw [credit_eq (by rw [answering]; nofun), expected]; rfl
  refine ⟨fun _ => expected, nofun, fun idle _ => balanced.waits idle (.inl answering), balanced.settled, fun idle => ?_,
    fun _ => ?_, fun _ _ => nofun, fun resetting => absurd resetting works.1,
    fun late => absurd late (by rw [works.2]; nofun)⟩
  · have tokens := (if_pos pipeline).mp (balanced.tokens idle)
    rw [credit, Ledger.tokens] at tokens
    refine (if_pos last).mpr ?_
    simp only [Ledger.tokens, Ledger.credit, expected, Bool.toNat_false, if_true]
    omega
  · change Matched _ ([] ++ ledger.programs)
    rw [last]
    trivial

theorem repoll {owes : Bool} {poll : Poll}
    (same : ledger.owes.toNat + ledger.poll.flagged = owes.toNat + poll.flagged) :
    Balanced { ledger with owes, poll } where
  spent := balanced.spent
  last := balanced.last
  waits := balanced.waits
  settled busy := by
    obtain ⟨none, unflagged⟩ := balanced.settled busy
    rw [none, unflagged] at same
    exact ⟨by simpa using (Nat.add_eq_zero_iff.mp same.symm).1, (Nat.add_eq_zero_iff.mp same.symm).2⟩
  tokens idle := by
    have tokens := balanced.tokens idle
    have moved : ledger.tokens = owes.toNat + ledger.ends + poll.flagged := by rw [Ledger.tokens]; omega
    rw [moved] at tokens
    exact tokens
  matched := balanced.matched
  committed := balanced.committed
  resetting := balanced.resetting
  late := balanced.late

theorem pollDelivered (held : ledger.poll = .held true) (raised : ledger.stage ≠ .wrote) :
    Balanced { ledger with poll := .polled, expected := false } := by
  have flagged : ledger.poll.flagged = 1 := by rw [held]; rfl
  have idle : ledger.clear = .idle := by
    by_contra busy
    rw [(balanced.settled busy).2] at flagged
    cases flagged
  have counted : ledger.tokens = ledger.owes.toNat + ledger.ends + 1 := by rw [Ledger.tokens, flagged]
  obtain ⟨empty, one, -⟩ := balanced.carries idle (by omega)
  refine ofIdle idle (fun _ => rfl) balanced.last (balanced.waits idle) ?_ ?_
  · refine (if_pos empty).mpr ?_
    simp only [Ledger.tokens, Ledger.credit, Poll.flagged, Bool.toNat_false, if_neg raised]
    omega
  · change Matched _ ledger.pipeline
    rw [empty]
    trivial

theorem reclear {before after : Clear} (standing : ledger.clear = before) (alike : before.Alike after) :
    Balanced { ledger with clear := after } := by
  obtain ⟨busy, other, unfinished, early, clearing, late⟩ := alike
  subst standing
  exact
    { spent := balanced.spent
      last := balanced.last
      waits := fun idle => absurd idle other
      settled := fun _ => balanced.settled busy
      tokens := fun idle => absurd idle other
      matched := fun phase => balanced.matched (.inr (early ▸ phase.resolve_left other))
      committed := fun delivered holds => balanced.committed delivered (clearing ▸ holds)
      resetting := fun resetting => absurd resetting unfinished
      late := fun holds => balanced.late (late ▸ holds) }

theorem request (free : ledger.poll = .idle) (idle : ledger.clear = .idle) (settled : ledger.owes = false) :
    Balanced { ledger with clear := .requested } where
  spent := balanced.spent
  last := balanced.last
  waits := nofun
  settled _ := ⟨settled, by rw [free]; rfl⟩
  tokens := nofun
  matched _ := balanced.matched (.inl idle)
  committed _ := nofun
  resetting := nofun
  late := nofun

theorem begin (preparing : ledger.clear = .preparing) :
    Balanced { ledger with clear := .begun } where
  spent := balanced.spent
  last := balanced.last
  waits := nofun
  settled _ := balanced.settled (by rw [preparing]; nofun)
  tokens := nofun
  matched phase := phase.elim nofun nofun
  committed delivered _ committed := by
    have committed : ledger.stage = .committed delivered := committed
    have matched := balanced.matched (.inr (by rw [preparing]; rfl))
    rw [Ledger.pipeline, committed, credit_eq (by rw [committed]; nofun)] at matched
    exact toNat_injective matched.1
  resetting := nofun
  late := nofun

theorem takeComplete (completed : ledger.clear = .completed) (first : ledger.programs = [])
    (resting : ledger.stage = .resting) : Balanced { ledger with clear := .resetting } where
  spent := balanced.spent
  last := balanced.last
  waits := nofun
  settled _ := balanced.settled (by rw [completed]; nofun)
  tokens := nofun
  matched phase := phase.elim nofun nofun
  committed delivered _ := balanced.committed delivered (by rw [completed]; rfl)
  resetting _ := ⟨resting, first⟩
  late := nofun

theorem reset (resetting : ledger.clear = .resetting) :
    Balanced { ledger with clear := .reset, expected := false } where
  spent _ := rfl
  last := balanced.last
  waits := nofun
  settled _ := balanced.settled (by rw [resetting]; nofun)
  tokens := nofun
  matched phase := phase.elim nofun nofun
  committed _ := nofun
  resetting := nofun
  late _ := ⟨(balanced.resetting resetting).1, (balanced.resetting resetting).2, rfl⟩

theorem cleared (returned : ledger.clear = .returned) (first : ledger.ends = 0) :
    Balanced { ledger with clear := .idle, outstanding := false } := by
  obtain ⟨resting, programs, expected⟩ := balanced.late (by rw [returned]; rfl)
  obtain ⟨settled, flagged⟩ := balanced.settled (by rw [returned]; nofun)
  have pipeline : ledger.pipeline = [] := by rw [Ledger.pipeline, resting, programs]; rfl
  have credit : ledger.credit = 0 := by rw [credit_eq (by rw [resting]; nofun), expected]; rfl
  refine ofIdle rfl balanced.spent balanced.last ?_ ?_ ?_
  · rintro (answering | more)
    · exact absurd (resting.symm.trans answering) nofun
    · exact absurd first (Nat.ne_of_gt more)
  · change if ledger.pipeline = [] then ledger.tokens = ledger.credit else _
    rw [if_pos pipeline, credit, Ledger.tokens, settled, flagged, first]
    rfl
  · change Matched ledger.credit ledger.pipeline
    rw [pipeline]
    trivial

theorem abandon : Balanced { ledger with clear := ledger.clear.abandoned } := by
  obtain same | alike := ledger.clear.abandoned_alike
  · rw [same]
    exact balanced
  · exact balanced.reclear rfl alike

end

end Balanced

theorem Balanced.step {before after : Ledger} (balanced : Balanced before) (step : Step before after) :
    Balanced after := by
  cases step with
  | program free answered idle => exact balanced.program free answered idle
  | consume next idle => exact balanced.consume next idle
  | discard _ busy => exact balanced.discard busy _
  | take next resting => exact balanced.take next resting
  | commit taken ready => exact balanced.commit taken ready
  | drop taken clearing => exact balanced.drop taken clearing
  | judge committed => exact balanced.judge committed
  | classify judged last => exact balanced.classify judged last
  | writeEnd answering => exact balanced.writeEnd answering
  | raise wrote => exact balanced.raise wrote
  | rest done => exact balanced.rest done
  | query free =>
    refine balanced.repoll ?_
    rw [free]
    cases before.owes <;> rfl
  | @takeQuery delivered sent =>
    refine balanced.repoll ?_
    rw [sent]
    cases delivered <;> rfl
  | poll held => exact balanced.repoll (by rw [held]; rfl)
  | pollDelivered held raised => exact balanced.pollDelivered held raised
  | respond polled => exact balanced.repoll (by rw [polled]; rfl)
  | loseQuery polled => exact balanced.repoll (by rw [polled]; rfl)
  | answered answered => exact balanced.repoll (by rw [answered]; rfl)
  | clear free idle settled => exact balanced.request free idle settled
  | takeClear requested => exact balanced.reclear requested (by decide)
  | begin preparing => exact balanced.begin preparing
  | agree begun => exact balanced.reclear begun (by decide)
  | agreed agreed => exact balanced.reclear agreed (by decide)
  | complete acknowledged => exact balanced.reclear acknowledged (by decide)
  | takeComplete completed first resting => exact balanced.takeComplete completed first resting
  | reset resetting => exact balanced.reset resetting
  | acknowledge reset => exact balanced.reclear reset (by decide)
  | cleared returned first => exact balanced.cleared returned first
  | abandon => exact balanced.abandon

/-- What the synchronous loop is about to judge is what the server expects. -/
theorem Balanced.agreed {ledger : Ledger} (balanced : Balanced ledger) {delivered : Bool}
    (committed : ledger.stage = .committed delivered) : ledger.expected = delivered := by
  obtain ⟨active, unheard⟩ := balanced.working (by rw [committed]; nofun)
  by_cases clearing : ledger.clear.clearing = true
  · exact balanced.committed delivered clearing committed
  · have phase : ledger.clear = .idle ∨ ledger.clear.early = true := by
      revert clearing unheard
      cases ledger.clear <;> simp [Clear.clearing, Clear.late, Clear.early]
    have matched := balanced.matched phase
    rw [pipeline, committed, credit_eq (by rw [committed]; nofun)] at matched
    exact toNat_injective matched.1

end Ledger

end Hislip.Proofs
