import Mathlib.Tactic.SplitIfs
import Hislip.Protocol.Errors

/-! Response policies: the interface the session uses, the SCPI lexical scan, and
the two constant policies. -/

namespace Hislip.Server

inductive Disposition where
  | noResponseExpected | responseExpected | unknown
  deriving DecidableEq, Repr

/-- A policy with states `σ`. The server is given a factory, so every session
starts from `fresh`. -/
structure ResponsePolicy (σ : Type) where
  fresh : σ
  feed : σ → Bytes → σ
  disposition : σ → Disposition
  reset : σ → σ

inductive SCPIState where
  | normal | string | stringQuote | hash | blockLen | blockData
  deriving DecidableEq, Repr

structure SCPIQueryPolicy where
  found : Bool := false
  state : SCPIState := .normal
  quote : UInt8 := 0
  digits : Int := 0
  length : UInt64 := 0
  remain : UInt64 := 0
  deriving DecidableEq, Repr

namespace SCPIQueryPolicy

/-- One iteration of the scan at byte `c` with `rest` after it: the next state
and the bytes still to scan. Three states give `c` back to be examined again. -/
def scan (policy : SCPIQueryPolicy) (c : UInt8) (rest : Bytes) : SCPIQueryPolicy × Bytes :=
  match policy.state with
  | .normal =>
    if c = 63 then ({ policy with found := true }, rest)
    else if c = 39 ∨ c = 34 then ({ policy with quote := c, state := .string }, rest)
    else if c = 35 then ({ policy with state := .hash }, rest)
    else (policy, rest)
  | .string => if c = policy.quote then ({ policy with state := .stringQuote }, rest) else (policy, rest)
  | .stringQuote =>
    if c = policy.quote then ({ policy with state := .string }, rest)
    else ({ policy with state := .normal, quote := 0 }, c :: rest)
  | .hash =>
    if 49 ≤ c ∧ c ≤ 57 then
      ({ policy with digits := (c - 48).toNat, length := 0, state := .blockLen }, rest)
    else ({ policy with state := .normal }, c :: rest)
  | .blockLen =>
    if c < 48 ∨ 57 < c then ({ policy with state := .normal }, c :: rest)
    else
      let length := policy.length * 10 + (c - 48).toUInt64
      let digits := policy.digits - 1
      if digits = 0 then
        ({ policy with length, digits, remain := length, state := if length = 0 then .normal else .blockData }, rest)
      else ({ policy with length, digits }, rest)
  | .blockData =>
    let skip := min policy.remain.toNat (rest.length + 1)
    let remain := policy.remain - UInt64.ofNat skip
    ({ policy with remain, state := if remain = 0 then .normal else .blockData }, (c :: rest).drop skip)

/-- The states that may give a byte back rank above those that never do. -/
def rank (policy : SCPIQueryPolicy) : Nat :=
  match policy.state with
  | .normal | .string => 0
  | _ => 1

/-- Work left in a scan: every iteration consumes a byte or falls to a state
that does. -/
def work (policy : SCPIQueryPolicy) (bytes : Bytes) : Nat := 2 * bytes.length + policy.rank

theorem scan_progress (policy : SCPIQueryPolicy) (c : UInt8) (rest : Bytes) :
    (policy.scan c rest).1.work (policy.scan c rest).2 < policy.work (c :: rest) := by
  obtain ⟨found, state, quote, digits, length, remain⟩ := policy
  cases state with
  | normal | string | stringQuote | hash | blockLen =>
    simp only [scan]
    split_ifs <;> simp only [work, rank, List.length_cons] <;> omega
  | blockData =>
    have skipped : ((c :: rest).drop (min remain.toNat (rest.length + 1))).length =
        rest.length + 1 - min remain.toNat (rest.length + 1) := by simp
    simp only [scan, work, skipped, List.length_cons]
    by_cases empty : remain = 0
    · subst remain
      simp [rank]
    · have positive : 0 < remain.toNat := Nat.pos_of_ne_zero (fun zero => empty (UInt64.toNat.inj zero))
      simp only [rank]
      split <;> omega

/-- `Feed`: scan until the chunk or the interest in it is exhausted. -/
def feed (policy : SCPIQueryPolicy) (chunk : Bytes) : SCPIQueryPolicy :=
  match chunk with
  | [] => policy
  | c :: rest => if policy.found then policy else (policy.scan c rest).1.feed (policy.scan c rest).2
termination_by policy.work chunk
decreasing_by exact policy.scan_progress c rest

end SCPIQueryPolicy

def scpiQueryPolicy : ResponsePolicy SCPIQueryPolicy where
  fresh := {}
  feed := SCPIQueryPolicy.feed
  disposition policy := if policy.found then .responseExpected else .noResponseExpected
  reset _ := {}

def alwaysReadPolicy : ResponsePolicy Unit where
  fresh := ()
  feed _ _ := ()
  disposition _ := .responseExpected
  reset _ := ()

def neverReadPolicy : ResponsePolicy Unit where
  fresh := ()
  feed _ _ := ()
  disposition _ := .noResponseExpected
  reset _ := ()

end Hislip.Server
