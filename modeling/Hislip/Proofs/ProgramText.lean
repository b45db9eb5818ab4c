import Mathlib.Data.UInt
import Hislip.Server.Policy

/-! The text of a program message. The scan of the SCPI policy gives the same answer
however a message is cut into chunks, and that answer is the one of a grammar: a message
is ordinary bytes, quoted strings and blocks, and it asks for a response when an ordinary
byte of it is a question mark. -/

namespace Hislip.Proofs.ProgramText
open Hislip.Server

section Chunks
variable {scanned : SCPIQueryPolicy} {rest : Bytes}

theorem feed_found (found : scanned.found = true) (chunk : Bytes) : scanned.feed chunk = scanned := by
  cases chunk with
  | nil => rw [SCPIQueryPolicy.feed]
  | cons c rest => rw [SCPIQueryPolicy.feed, if_pos found]

theorem feed_cons (unfound : ¬ scanned.found = true) (c : UInt8) (rest : Bytes) :
    scanned.feed (c :: rest) = (scanned.scan c rest).1.feed (scanned.scan c rest).2 := by
  rw [SCPIQueryPolicy.feed, if_neg unfound]

theorem scan_append (c : UInt8) (more : Bytes)
    (inside : scanned.state = .blockData → scanned.remain.toNat ≤ rest.length + 1) :
    scanned.scan c (rest ++ more) = ((scanned.scan c rest).1, (scanned.scan c rest).2 ++ more) := by
  obtain ⟨found, state, quote, digits, length, remain⟩ := scanned
  cases state with
  | normal | string | stringQuote | hash | blockLen =>
    simp only [SCPIQueryPolicy.scan]
    split_ifs <;> rfl
  | blockData =>
    have within : remain.toNat ≤ rest.length + 1 := inside rfl
    have first : min remain.toNat (rest.length + 1) = remain.toNat := Nat.min_eq_left within
    have whole : min remain.toNat ((rest ++ more).length + 1) = remain.toNat := by
      rw [List.length_append]
      omega
    simp only [SCPIQueryPolicy.scan, first, whole]
    rw [← List.cons_append, List.drop_append_of_le_length (by simpa using within)]

/-- Inside a block that is longer than the chunk, the scan goes on as if the chunk had
been counted down already. -/
theorem scan_block (c d : UInt8) (more : Bytes) (block : scanned.state = .blockData)
    (beyond : rest.length + 1 < scanned.remain.toNat) :
    ∃ counted : SCPIQueryPolicy, counted.found = scanned.found ∧ scanned.scan c rest = (counted, []) ∧
      counted.scan d more = scanned.scan c (rest ++ d :: more) := by
  obtain ⟨found, state, quote, digits, length, remain⟩ := scanned
  obtain rfl : state = .blockData := block
  change rest.length + 1 < remain.toNat at beyond
  have counts : (UInt64.ofNat (rest.length + 1)).toNat = rest.length + 1 :=
    UInt64.toNat_ofNat_of_lt' (Nat.lt_trans beyond remain.toNat_lt)
  have cut : (remain - UInt64.ofNat (rest.length + 1)).toNat = remain.toNat - (rest.length + 1) := by
    have fits : UInt64.ofNat (rest.length + 1) ≤ remain := by
      rw [UInt64.le_iff_toNat_le, counts]
      exact Nat.le_of_lt beyond
    rw [UInt64.toNat_sub_of_le _ _ fits, counts]
  have left : ¬ remain - UInt64.ofNat (rest.length + 1) = 0 := by
    intro none
    have gone := congrArg UInt64.toNat none
    rw [cut, UInt64.toNat_zero] at gone
    exact Nat.sub_ne_zero_of_lt beyond gone
  refine ⟨⟨found, .blockData, quote, digits, length, remain - UInt64.ofNat (rest.length + 1)⟩, rfl, ?_, ?_⟩
  · have skip : min remain.toNat (rest.length + 1) = rest.length + 1 := Nat.min_eq_right (Nat.le_of_lt beyond)
    simp only [SCPIQueryPolicy.scan, skip, if_neg left]
    rw [List.drop_of_length_le (by simp)]
  · have whole : min remain.toNat ((rest ++ d :: more).length + 1) =
        rest.length + 1 + min (remain.toNat - (rest.length + 1)) (more.length + 1) := by
      rw [List.length_append, List.length_cons]
      omega
    have dropped (count : Nat) : (c :: (rest ++ d :: more)).drop (rest.length + 1 + count) =
      (d :: more).drop count := by
      rw [← List.cons_append, List.drop_append, List.drop_of_length_le (by simp)]
      simp
    simp only [SCPIQueryPolicy.scan, whole, cut, UInt64.ofNat_add (rest.length + 1), sub_add_eq_sub_sub, dropped]

/-- A chunk may be cut anywhere: inside a string, an escape or a block as well. -/
theorem feed_append (scanned : SCPIQueryPolicy) (chunk more : Bytes) :
    (scanned.feed chunk).feed more = scanned.feed (chunk ++ more) := by
  fun_induction SCPIQueryPolicy.feed scanned chunk with
  | case1 scanned => rfl
  | case2 scanned c rest found => rw [feed_found found, feed_found found]
  | case3 scanned c rest unfound ih =>
    rw [ih, List.cons_append, feed_cons unfound]
    by_cases inside : scanned.state = .blockData → scanned.remain.toNat ≤ rest.length + 1
    · rw [scan_append c more inside]
    · obtain ⟨block, beyond⟩ := Classical.not_imp.mp inside
      cases more with
      | nil => rw [List.append_nil, List.append_nil]
      | cons d more =>
        obtain ⟨counted, same, first, second⟩ := scan_block c d more block (Nat.lt_of_not_le beyond)
        rw [first, List.nil_append, feed_cons (same ▸ unfound), second]

theorem feed_flatten (chunks : List Bytes) (scanned : SCPIQueryPolicy) :
    chunks.foldl SCPIQueryPolicy.feed scanned = scanned.feed chunks.flatten := by
  induction chunks generalizing scanned with
  | nil => rw [List.foldl_nil, List.flatten_nil, SCPIQueryPolicy.feed]
  | cons chunk chunks ih => rw [List.foldl_cons, ih, feed_append, List.flatten_cons]

/-- From every state, the scan of a message ends in the same state whether the message
comes whole, in any chunks, or one byte at a time. -/
theorem chunks_scanned_alike (scanned : SCPIQueryPolicy) :
    (∀ first second : Bytes, scanned.feed (first ++ second) = (scanned.feed first).feed second) ∧
      ∀ chunks : List Bytes,
        chunks.foldl SCPIQueryPolicy.feed scanned = scanned.feed chunks.flatten ∧
        chunks.flatten.foldl (fun state byte => state.feed [byte]) scanned = scanned.feed chunks.flatten ∧
        scpiQueryPolicy.disposition (chunks.foldl SCPIQueryPolicy.feed scanned) =
          scpiQueryPolicy.disposition (scanned.feed chunks.flatten) := by
  have bytewise (message : Bytes) :
      message.foldl (fun state byte => state.feed [byte]) scanned = scanned.feed message := by
    have singles : (message.map fun byte => [byte]).flatten = message := by
      rw [← List.flatMap_def, List.flatMap_singleton']
    rw [← List.foldl_map, feed_flatten, singles]
  refine ⟨fun first second => (feed_append scanned first second).symm, fun chunks => ?_⟩
  have whole := feed_flatten chunks scanned
  exact ⟨whole, bytewise _, congrArg scpiQueryPolicy.disposition whole⟩

end Chunks

section Grammar

abbrev isQuote (byte : UInt8) : Prop := byte = 39 ∨ byte = 34

abbrev isDigit (byte : UInt8) : Prop := 48 ≤ byte ∧ byte ≤ 57

abbrev isCount (byte : UInt8) : Prop := 49 ≤ byte ∧ byte ≤ 57

def accumulate (value : Nat) (digit : UInt8) : Nat := value * 10 + (digit - 48).toNat

def decimal (digits : Bytes) : Nat := digits.foldl accumulate 0

inductive Quoted (quote : UInt8) : Bytes → Prop
  | nil : Quoted quote []
  | byte {byte : UInt8} {body : Bytes} (other : byte ≠ quote) (rest : Quoted quote body) : Quoted quote (byte :: body)
  | doubled {body : Bytes} (rest : Quoted quote body) : Quoted quote (quote :: quote :: body)

inductive Piece where
  | text (byte : UInt8)
  | string (bytes : Bytes)
  | block (header payload : Bytes)
  | shortHeader (bytes : Bytes)
  deriving DecidableEq, Repr

def Piece.bytes : Piece → Bytes
  | .text byte => [byte]
  | .string bytes => bytes
  | .block header payload => header ++ payload
  | .shortHeader bytes => bytes

/-- The pieces of a message, from left to right. A string ends at a quote that no other
follows, a block has as many bytes as its header says, and both may be cut off by the end
of the message. A hash without a count is text, and a header that is cut short by another
byte ends before it. -/
inductive Pieces : Bytes → List Piece → Prop
  | nil : Pieces [] []
  | text {byte : UInt8} {message : Bytes} {pieces : List Piece} (unquoted : ¬ isQuote byte) (plain : byte ≠ 35)
      (rest : Pieces message pieces) : Pieces (byte :: message) (.text byte :: pieces)
  | string {quote : UInt8} {tail body message : Bytes} {pieces : List Piece} (opens : isQuote quote)
      (split : tail = body ++ quote :: message) (inside : Quoted quote body) (closes : message.head? ≠ some quote)
      (rest : Pieces message pieces) : Pieces (quote :: tail) (.string (quote :: (body ++ [quote])) :: pieces)
  | openString {quote : UInt8} {body : Bytes} (opens : isQuote quote) (inside : Quoted quote body) :
      Pieces (quote :: body) [.string (quote :: body)]
  | hash {message : Bytes} {pieces : List Piece} (bare : ∀ next ∈ message.head?, ¬ isCount next)
      (rest : Pieces message pieces) : Pieces (35 :: message) (.text 35 :: pieces)
  | block {count : UInt8} {tail digits message : Bytes} {pieces : List Piece} (counts : isCount count)
      (split : tail = digits ++ message) (all : ∀ digit ∈ digits, isDigit digit)
      (complete : digits.length = (count - 48).toNat) (rest : Pieces (message.drop (decimal digits)) pieces) :
      Pieces (35 :: count :: tail) (.block (35 :: count :: digits) (message.take (decimal digits)) :: pieces)
  | shortHeader {count : UInt8} {tail digits message : Bytes} {pieces : List Piece} (counts : isCount count)
      (split : tail = digits ++ message) (all : ∀ digit ∈ digits, isDigit digit)
      (short : digits.length < (count - 48).toNat) (ends : ∀ next ∈ message.head?, ¬ isDigit next)
      (rest : Pieces message pieces) : Pieces (35 :: count :: tail) (.shortHeader (35 :: count :: digits) :: pieces)

end Grammar

section Scan
variable {scanned : SCPIQueryPolicy} {message : Bytes}

structure Ordinary (scanned : SCPIQueryPolicy) : Prop where
  unfound : scanned.found = false
  normal : scanned.state = .normal

def Asks (scanned : SCPIQueryPolicy) (message : Bytes) : Prop := (scanned.feed message).found = true

theorem not_asks_nil (unfound : scanned.found = false) : ¬ Asks scanned [] := by
  rw [Asks, SCPIQueryPolicy.feed, unfound]
  exact Bool.false_ne_true

theorem asks_cons (unfound : scanned.found = false) (c : UInt8) (rest : Bytes) :
    Asks scanned (c :: rest) ↔ Asks (scanned.scan c rest).1 (scanned.scan c rest).2 := by
  have goes : ¬ scanned.found = true := by rw [unfound]; exact Bool.false_ne_true
  rw [Asks, feed_cons goes, Asks]

theorem asks_text (ordinary : Ordinary scanned) {byte : UInt8} (unquoted : ¬ isQuote byte) (plain : byte ≠ 35) :
    Asks scanned (byte :: message) ↔ byte = 63 ∨ Asks scanned message := by
  rw [asks_cons ordinary.unfound]
  simp only [SCPIQueryPolicy.scan, ordinary.normal]
  by_cases mark : byte = 63
  · rw [if_pos mark]
    refine iff_of_true ?_ (.inl mark)
    rw [Asks, feed_found rfl]
  · rw [if_neg mark, if_neg unquoted, if_neg plain, or_iff_right mark]

section Strings
variable {quote : UInt8} {body : Bytes}

def opened (scanned : SCPIQueryPolicy) (quote : UInt8) : SCPIQueryPolicy := { scanned with quote, state := .string }

theorem asks_quote (ordinary : Ordinary scanned) (opens : isQuote quote) :
    Asks scanned (quote :: message) ↔ Asks (opened scanned quote) message := by
  rw [asks_cons ordinary.unfound]
  have other : ¬ quote = 63 := by
    intro same
    subst same
    exact absurd opens (by decide)
  simp only [SCPIQueryPolicy.scan, ordinary.normal, if_neg other]
  rw [if_pos opens]
  rfl

theorem feed_quoted (inside : Quoted quote body) (unfound : scanned.found = false) (string : scanned.state = .string)
    (same : scanned.quote = quote) : scanned.feed (body ++ message) = scanned.feed message := by
  obtain ⟨found, state, _, digits, length, remain⟩ := scanned
  obtain rfl : found = false := unfound
  obtain rfl : state = .string := string
  obtain rfl := same
  induction inside with
  | nil => rfl
  | byte other rest ih =>
    rw [List.cons_append, feed_cons Bool.false_ne_true]
    simp only [SCPIQueryPolicy.scan, if_neg other]
    exact ih
  | doubled rest ih =>
    rw [List.cons_append, List.cons_append, feed_cons Bool.false_ne_true]
    simp only [SCPIQueryPolicy.scan, if_true]
    rw [feed_cons Bool.false_ne_true]
    simp only [SCPIQueryPolicy.scan, if_true]
    exact ih

/-- The quote that closes a string is told from a doubled one by the byte after it, which
is scanned again. -/
theorem asks_closing (unfound : scanned.found = false) (string : scanned.state = .string)
    (closes : message.head? ≠ some scanned.quote) :
    ∃ later, Ordinary later ∧ (Asks scanned (scanned.quote :: message) ↔ Asks later message) := by
  obtain ⟨found, state, quote, digits, length, remain⟩ := scanned
  obtain rfl : found = false := unfound
  obtain rfl : state = .string := string
  refine ⟨⟨false, .normal, 0, digits, length, remain⟩, ⟨rfl, rfl⟩, ?_⟩
  rw [asks_cons rfl]
  simp only [SCPIQueryPolicy.scan, if_true]
  cases message with
  | nil => exact iff_of_false (not_asks_nil rfl) (not_asks_nil rfl)
  | cons next rest =>
    have other : ¬ next = quote := by
      intro same
      exact closes (congrArg some same)
    rw [asks_cons rfl]
    simp only [SCPIQueryPolicy.scan, if_neg other]

theorem asks_string (ordinary : Ordinary scanned) (opens : isQuote quote) (inside : Quoted quote body)
    (closes : message.head? ≠ some quote) :
    ∃ later, Ordinary later ∧ (Asks scanned (quote :: (body ++ quote :: message)) ↔ Asks later message) := by
  have unfound : (opened scanned quote).found = false := ordinary.unfound
  obtain ⟨later, after, same⟩ := asks_closing unfound rfl closes
  refine ⟨later, after, ?_⟩
  rw [asks_quote ordinary opens, Asks, feed_quoted inside unfound rfl rfl]
  exact same

theorem not_asks_openString (ordinary : Ordinary scanned) (opens : isQuote quote) (inside : Quoted quote body) :
    ¬ Asks scanned (quote :: body) := by
  have unfound : (opened scanned quote).found = false := ordinary.unfound
  rw [asks_quote ordinary opens, ← List.append_nil body, Asks, feed_quoted inside unfound rfl rfl]
  exact not_asks_nil unfound

end Strings

section Blocks

theorem asks_hash (ordinary : Ordinary scanned) (bare : ∀ next ∈ message.head?, ¬ isCount next) :
    Asks scanned (35 :: message) ↔ Asks scanned message := by
  obtain ⟨found, state, quote, digits, length, remain⟩ := scanned
  obtain rfl : found = false := ordinary.unfound
  obtain rfl : state = .normal := ordinary.normal
  rw [asks_cons rfl]
  simp only [SCPIQueryPolicy.scan]
  cases message with
  | nil => exact iff_of_false (not_asks_nil rfl) (not_asks_nil rfl)
  | cons next rest =>
    have other : ¬ (49 ≤ next ∧ next ≤ 57) := bare next rfl
    rw [if_neg (by decide), if_neg (by decide), if_pos trivial, asks_cons rfl]
    simp only [SCPIQueryPolicy.scan, if_neg other]

def counting (scanned : SCPIQueryPolicy) (count : UInt8) : SCPIQueryPolicy :=
  { scanned with digits := (count - 48).toNat, length := 0, state := .blockLen }

theorem asks_count (ordinary : Ordinary scanned) {count : UInt8} (counts : isCount count) :
    Asks scanned (35 :: count :: message) ↔ Asks (counting scanned count) message := by
  obtain ⟨found, state, quote, digits, length, remain⟩ := scanned
  obtain rfl : found = false := ordinary.unfound
  obtain rfl : state = .normal := ordinary.normal
  rw [asks_cons rfl]
  simp only [SCPIQueryPolicy.scan]
  rw [if_neg (by decide), if_neg (by decide), if_pos trivial, asks_cons rfl]
  simp only [SCPIQueryPolicy.scan]
  rw [if_pos counts]
  rfl

theorem length_accumulate (value : Nat) (digit : UInt8) :
    UInt64.ofNat value * 10 + (digit - 48).toUInt64 = UInt64.ofNat (accumulate value digit) := by
  rw [accumulate, UInt64.ofNat_add, UInt64.ofNat_mul, UInt64.ofNat_uInt8ToNat]
  rfl

def counted (scanned : SCPIQueryPolicy) (value : Nat) : SCPIQueryPolicy :=
  { scanned with length := UInt64.ofNat value, digits := scanned.digits - 1 }

def measured (scanned : SCPIQueryPolicy) (value : Nat) : SCPIQueryPolicy :=
  { scanned with
    length := UInt64.ofNat value
    digits := 0
    remain := UInt64.ofNat value
    state := if UInt64.ofNat value = 0 then .normal else .blockData }

theorem scan_digit {digit : UInt8} (is : isDigit digit) (lengths : scanned.state = .blockLen) {value : Nat}
    (far : scanned.length = UInt64.ofNat value) :
    scanned.scan digit message =
      if scanned.digits = 1 then (measured scanned (accumulate value digit), message)
      else (counted scanned (accumulate value digit), message) := by
  obtain ⟨found, state, quote, digits, length, remain⟩ := scanned
  obtain rfl : state = .blockLen := lengths
  obtain rfl : length = _ := far
  have inside : ¬ (digit < 48 ∨ 57 < digit) := by
    rintro (low | high)
    · exact UInt8.not_le.mpr low is.1
    · exact UInt8.not_le.mpr high is.2
  simp only [SCPIQueryPolicy.scan, if_neg inside, length_accumulate]
  by_cases last : digits = 1
  · rw [if_pos (by omega), if_pos last]
    subst last
    rfl
  · rw [if_neg (by omega), if_neg last]
    rfl

variable {digits : Bytes}

theorem feed_digits (all : ∀ digit ∈ digits, isDigit digit) (some_digits : digits ≠ [])
    (unfound : scanned.found = false) (lengths : scanned.state = .blockLen) {value : Nat}
    (far : scanned.length = UInt64.ofNat value) (left : scanned.digits = digits.length) :
    scanned.feed (digits ++ message) = (measured scanned (digits.foldl accumulate value)).feed message := by
  have goes (scanned : SCPIQueryPolicy) (unfound : scanned.found = false) : ¬ scanned.found = true := by
    rw [unfound]
    exact Bool.false_ne_true
  induction digits generalizing scanned value with
  | nil => exact absurd rfl some_digits
  | cons digit digits ih =>
    rw [List.length_cons] at left
    rw [List.cons_append, feed_cons (goes scanned unfound), scan_digit (all digit List.mem_cons_self) lengths far]
    cases digits with
    | nil =>
      rw [if_pos (by simpa using left)]
      rfl
    | cons next digits =>
      rw [List.length_cons] at left
      rw [if_neg (by omega), List.foldl_cons]
      have goes_on : (counted scanned (accumulate value digit)).found = false := unfound
      refine ih (fun digit member => all digit (List.mem_cons_of_mem _ member)) (List.cons_ne_nil _ _) goes_on
        lengths rfl ?_
      change scanned.digits - 1 = ((digits.length + 1 : Nat) : Int)
      omega

theorem asks_cut (all : ∀ digit ∈ digits, isDigit digit) (unfound : scanned.found = false)
    (lengths : scanned.state = .blockLen) {value : Nat} (far : scanned.length = UInt64.ofNat value)
    (short : (digits.length : Int) < scanned.digits) (ends : ∀ next ∈ message.head?, ¬ isDigit next) :
    ∃ later, Ordinary later ∧ (Asks scanned (digits ++ message) ↔ Asks later message) := by
  induction digits generalizing scanned value with
  | nil =>
    refine ⟨{ scanned with state := .normal }, ⟨unfound, rfl⟩, ?_⟩
    obtain ⟨found, state, quote, digits, length, remain⟩ := scanned
    obtain rfl : found = false := unfound
    obtain rfl : state = .blockLen := lengths
    rw [List.nil_append]
    cases message with
    | nil => exact iff_of_false (not_asks_nil rfl) (not_asks_nil rfl)
    | cons next rest =>
      have outside : next < 48 ∨ 57 < next := by
        by_contra inside
        rw [not_or, UInt8.not_lt, UInt8.not_lt] at inside
        exact ends next rfl inside
      rw [asks_cons rfl]
      simp only [SCPIQueryPolicy.scan, if_pos outside]
  | cons digit digits ih =>
    rw [List.length_cons] at short
    push_cast at short
    have more : ¬ scanned.digits = 1 := by omega
    rw [List.cons_append, asks_cons unfound, scan_digit (all digit List.mem_cons_self) lengths far, if_neg more]
    have goes_on : (counted scanned (accumulate value digit)).found = false := unfound
    refine ih (fun digit member => all digit (List.mem_cons_of_mem _ member)) goes_on lengths rfl ?_
    change _ < scanned.digits - 1
    omega

theorem asks_payload (unfound : scanned.found = false) (skips : scanned.state = .blockData)
    (some_left : scanned.remain ≠ 0) :
    ∃ later, Ordinary later ∧ (Asks scanned message ↔ Asks later (message.drop scanned.remain.toNat)) := by
  obtain ⟨found, state, quote, digits, length, remain⟩ := scanned
  obtain rfl : found = false := unfound
  obtain rfl : state = .blockData := skips
  refine ⟨⟨false, .normal, quote, digits, length, 0⟩, ⟨rfl, rfl⟩, ?_⟩
  cases message with
  | nil =>
    rw [List.drop_nil]
    exact iff_of_false (not_asks_nil rfl) (not_asks_nil rfl)
  | cons c rest =>
    rw [asks_cons rfl]
    simp only [SCPIQueryPolicy.scan]
    by_cases inside : remain.toNat ≤ rest.length + 1
    · rw [Nat.min_eq_left inside, UInt64.ofNat_toNat, UInt64.sub_self, if_pos rfl]
    · have short : (c :: rest).length ≤ remain.toNat := by
        rw [List.length_cons]
        omega
      rw [List.drop_of_length_le short, Nat.min_eq_right (by omega), List.drop_of_length_le (by simp)]
      exact iff_of_false (not_asks_nil rfl) (not_asks_nil rfl)

theorem digit_le {digit : UInt8} (is : isDigit digit) : (digit - 48).toNat ≤ 9 := by
  have high := UInt8.le_iff_toNat_le.mp is.2
  rw [UInt8.toNat_sub_of_le _ _ is.1]
  change digit.toNat ≤ 57 at high
  change digit.toNat - 48 ≤ 9
  omega

theorem foldl_accumulate_lt (all : ∀ digit ∈ digits, isDigit digit) (value : Nat) :
    digits.foldl accumulate value < (value + 1) * 10 ^ digits.length := by
  induction digits generalizing value with
  | nil => simp
  | cons digit digits ih =>
    have later := ih (fun digit member => all digit (List.mem_cons_of_mem _ member)) (accumulate value digit)
    have next : accumulate value digit + 1 ≤ (value + 1) * 10 := by
      have small := digit_le (all digit List.mem_cons_self)
      unfold accumulate
      omega
    rw [List.foldl_cons, List.length_cons, Nat.pow_succ, Nat.mul_comm (10 ^ _) 10, ← Nat.mul_assoc]
    exact Nat.lt_of_lt_of_le later (Nat.mul_le_mul_right _ next)

theorem decimal_lt (all : ∀ digit ∈ digits, isDigit digit) : decimal digits < 10 ^ digits.length := by
  have bound := foldl_accumulate_lt all 0
  rwa [Nat.zero_add, Nat.one_mul] at bound

theorem count_bounds {count : UInt8} (counts : isCount count) : 1 ≤ (count - 48).toNat ∧ (count - 48).toNat ≤ 9 := by
  have low := UInt8.le_iff_toNat_le.mp counts.1
  have digit : isDigit count := ⟨UInt8.le_trans (by decide) counts.1, counts.2⟩
  refine ⟨?_, digit_le digit⟩
  rw [UInt8.toNat_sub_of_le _ _ digit.1]
  change 49 ≤ count.toNat at low
  change 1 ≤ count.toNat - 48
  omega

section Headers
variable {count : UInt8} {digits : Bytes} (ordinary : Ordinary scanned) (counts : isCount count)
  (all : ∀ digit ∈ digits, isDigit digit)
include ordinary counts all

theorem asks_block (complete : digits.length = (count - 48).toNat) :
    ∃ later, Ordinary later ∧
      (Asks scanned (35 :: count :: (digits ++ message)) ↔ Asks later (message.drop (decimal digits))) := by
  obtain ⟨one, nine⟩ := count_bounds counts
  have some_digits : digits ≠ [] := by
    intro none
    rw [none, List.length_nil] at complete
    omega
  have fits : decimal digits < 2 ^ 64 := by
    have bound := decimal_lt all
    have small : 10 ^ digits.length ≤ 10 ^ 9 := Nat.pow_le_pow_right (by decide) (by omega)
    omega
  have size : (UInt64.ofNat (decimal digits)).toNat = decimal digits := UInt64.toNat_ofNat_of_lt' fits
  have unfound : (counting scanned count).found = false := ordinary.unfound
  have left : (counting scanned count).digits = digits.length := congrArg Int.ofNat complete.symm
  have fed : Asks scanned (35 :: count :: (digits ++ message)) ↔
      Asks (measured (counting scanned count) (decimal digits)) message := by
    rw [asks_count ordinary counts, Asks, feed_digits all some_digits unfound rfl rfl left]
    rfl
  by_cases empty : UInt64.ofNat (decimal digits) = 0
  · have zero : decimal digits = 0 := by rw [← size, empty]; rfl
    refine ⟨measured (counting scanned count) (decimal digits), ⟨unfound, if_pos empty⟩, ?_⟩
    rw [fed, zero, List.drop_zero]
  · have unmarked : (measured (counting scanned count) (decimal digits)).found = false := unfound
    have whole : (measured (counting scanned count) (decimal digits)).remain.toNat = decimal digits := size
    obtain ⟨later, after, same⟩ := asks_payload unmarked (if_neg empty) empty
    refine ⟨later, after, ?_⟩
    rw [fed, same, whole]

theorem asks_shortHeader (short : digits.length < (count - 48).toNat) (ends : ∀ next ∈ message.head?, ¬ isDigit next) :
    ∃ later, Ordinary later ∧ (Asks scanned (35 :: count :: (digits ++ message)) ↔ Asks later message) := by
  have unfound : (counting scanned count).found = false := ordinary.unfound
  obtain ⟨later, after, same⟩ := asks_cut all unfound rfl rfl (Int.ofNat_lt.mpr short) ends
  refine ⟨later, after, ?_⟩
  rw [asks_count ordinary counts, same]

end Headers

end Blocks

end Scan

section Decisions

theorem asks_iff {message : Bytes} {pieces : List Piece} (split : Pieces message pieces) {scanned : SCPIQueryPolicy}
    (ordinary : Ordinary scanned) : Asks scanned message ↔ .text 63 ∈ pieces := by
  induction split generalizing scanned with
  | nil => exact iff_of_false (not_asks_nil ordinary.unfound) List.not_mem_nil
  | text unquoted plain rest ih =>
    rw [asks_text ordinary unquoted plain, ih ordinary, List.mem_cons, Piece.text.injEq, eq_comm]
  | string opens split inside closes rest ih =>
    subst split
    obtain ⟨later, after, same⟩ := asks_string ordinary opens inside closes
    rw [same, ih after, List.mem_cons, or_iff_right Piece.noConfusion]
  | openString opens inside =>
    refine iff_of_false (not_asks_openString ordinary opens inside) ?_
    exact fun member => Piece.noConfusion (List.mem_singleton.mp member)
  | hash bare rest ih =>
    rw [asks_hash ordinary bare, ih ordinary, List.mem_cons, or_iff_right]
    exact fun same => absurd (Piece.text.inj same) (by decide)
  | block counts split all complete rest ih =>
    subst split
    obtain ⟨later, after, same⟩ := asks_block ordinary counts all complete
    rw [same, ih after, List.mem_cons, or_iff_right Piece.noConfusion]
  | shortHeader counts split all short ends rest ih =>
    subst split
    obtain ⟨later, after, same⟩ := asks_shortHeader ordinary counts all short ends
    rw [same, ih after, List.mem_cons, or_iff_right Piece.noConfusion]

end Decisions

section Splitting

theorem quoted_split (quote : UInt8) : (tail : Bytes) → Quoted quote tail ∨
    ∃ body message, tail = body ++ quote :: message ∧ Quoted quote body ∧ message.head? ≠ some quote
  | [] => .inl .nil
  | [c] => by
    by_cases same : c = quote
    · subst same
      exact .inr ⟨[], [], rfl, .nil, (Option.some_ne_none _).symm⟩
    · exact .inl (.byte same .nil)
  | c :: d :: rest => by
    by_cases same : c = quote
    · subst same
      by_cases twice : d = c
      · subst twice
        obtain all | ⟨body, message, rfl, inside, closes⟩ := quoted_split d rest
        · exact .inl (.doubled all)
        · exact .inr ⟨d :: d :: body, message, rfl, .doubled inside, closes⟩
      · refine .inr ⟨[], d :: rest, rfl, .nil, fun found => twice (Option.some.inj found)⟩
    · obtain all | ⟨body, message, split, inside, closes⟩ := quoted_split quote (d :: rest)
      · exact .inl (.byte same all)
      · exact .inr ⟨c :: body, message, congrArg (c :: ·) split, .byte same inside, closes⟩

/-- The digits of a header are complete, or another byte or the end cuts them short. -/
def Stops (size : Nat) (digits message : Bytes) : Prop :=
  digits.length = size ∨ digits.length < size ∧ ∀ next ∈ message.head?, ¬ isDigit next

theorem digits_split (size : Nat) (tail : Bytes) :
    ∃ digits message, tail = digits ++ message ∧ (∀ digit ∈ digits, isDigit digit) ∧ Stops size digits message := by
  induction size generalizing tail with
  | zero => exact ⟨[], tail, rfl, nofun, .inl rfl⟩
  | succ size ih =>
    cases tail with
    | nil => exact ⟨[], [], rfl, nofun, .inr ⟨Nat.succ_pos _, nofun⟩⟩
    | cons c rest =>
      by_cases digit : isDigit c
      · obtain ⟨digits, message, rfl, all, stops⟩ := ih rest
        refine ⟨c :: digits, message, rfl, List.forall_mem_cons.mpr ⟨digit, all⟩, ?_⟩
        rcases stops with complete | ⟨short, ends⟩
        · exact .inl (congrArg (· + 1) complete)
        · exact .inr ⟨Nat.succ_lt_succ short, ends⟩
      · refine ⟨[], c :: rest, rfl, nofun, .inr ⟨Nat.succ_pos _, ?_⟩⟩
        intro next found
        cases found
        exact digit

theorem exists_pieces (message : Bytes) : ∃ pieces, Pieces message pieces := by
  induction size : message.length using Nat.strong_induction_on generalizing message with
  | _ size ih =>
    subst size
    cases message with
    | nil => exact ⟨[], .nil⟩
    | cons c tail =>
      by_cases opens : isQuote c
      · obtain inside | ⟨body, message, split, inside, closes⟩ := quoted_split c tail
        · exact ⟨_, .openString opens inside⟩
        · have shorter : message.length < (c :: tail).length := by
            rw [split]
            simp
            omega
          obtain ⟨pieces, rest⟩ := ih _ shorter message rfl
          exact ⟨_, .string opens split inside closes rest⟩
      by_cases plain : c = 35
      · subst plain
        by_cases bare : ∀ next ∈ tail.head?, ¬ isCount next
        · obtain ⟨pieces, rest⟩ := ih _ (Nat.lt_succ_self _) tail rfl
          exact ⟨_, .hash bare rest⟩
        · cases tail with
          | nil => exact absurd nofun bare
          | cons count tail =>
            have counts : isCount count := by
              by_contra other
              exact bare fun next found => by cases found; exact other
            obtain ⟨digits, message, split, all, stops⟩ := digits_split (count - 48).toNat tail
            have shorter : message.length ≤ tail.length := by
              rw [split, List.length_append]
              omega
            rcases stops with complete | ⟨short, ends⟩
            · have below : (message.drop (decimal digits)).length < (35 :: count :: tail).length := by
                rw [List.length_drop, List.length_cons, List.length_cons]
                omega
              obtain ⟨pieces, rest⟩ := ih _ below _ rfl
              exact ⟨_, .block counts split all complete rest⟩
            · have below : message.length < (35 :: count :: tail).length := by
                rw [List.length_cons, List.length_cons]
                omega
              obtain ⟨pieces, rest⟩ := ih _ below _ rfl
              exact ⟨_, .shortHeader counts split all short ends rest⟩
      · obtain ⟨pieces, rest⟩ := ih _ (Nat.lt_succ_self _) tail rfl
        exact ⟨_, .text opens plain rest⟩

end Splitting

section Uniqueness
variable {quote : UInt8} {body message : Bytes}

theorem quoted_unique {other rest : Bytes} (inside : Quoted quote body) (also : Quoted quote other)
    (closes : message.head? ≠ some quote) (ends : rest.head? ≠ some quote)
    (same : body ++ quote :: message = other ++ quote :: rest) : body = other ∧ message = rest := by
  induction inside generalizing other with
  | nil =>
    cases also with
    | nil => exact ⟨rfl, List.tail_eq_of_cons_eq same⟩
    | byte differs => exact absurd (List.head_eq_of_cons_eq same).symm differs
    | doubled =>
      rw [List.tail_eq_of_cons_eq same] at closes
      exact absurd rfl closes
  | byte differs inside ih =>
    cases also with
    | nil => exact absurd (List.head_eq_of_cons_eq same) differs
    | byte _ also =>
      obtain ⟨rfl, rfl⟩ := ih also (List.tail_eq_of_cons_eq same)
      exact ⟨congrArg (· :: _) (List.head_eq_of_cons_eq same), rfl⟩
    | doubled => exact absurd (List.head_eq_of_cons_eq same) differs
  | doubled inside ih =>
    cases also with
    | nil =>
      rw [← List.tail_eq_of_cons_eq same] at ends
      exact absurd rfl ends
    | byte differs => exact absurd (List.head_eq_of_cons_eq same).symm differs
    | doubled also =>
      obtain ⟨rfl, rfl⟩ := ih also (List.tail_eq_of_cons_eq (List.tail_eq_of_cons_eq same))
      exact ⟨rfl, rfl⟩

theorem not_quoted_closed (inside : Quoted quote body) (closes : message.head? ≠ some quote) :
    ¬ Quoted quote (body ++ quote :: message) := by
  induction inside with
  | nil =>
    intro longer
    cases longer with
    | byte differs => exact differs rfl
    | doubled => exact closes rfl
  | byte differs inside ih =>
    intro longer
    rw [List.cons_append] at longer
    generalize _ ++ quote :: message = tail at longer ih
    cases longer with
    | byte _ rest => exact ih rest
    | doubled => exact differs rfl
  | doubled inside ih =>
    intro longer
    cases longer with
    | byte differs => exact differs rfl
    | doubled rest => exact ih rest

theorem digits_unique {size : Nat} {digits other rest : Bytes} (all : ∀ digit ∈ digits, isDigit digit)
    (also : ∀ digit ∈ other, isDigit digit) (stops : Stops size digits message) (ends : Stops size other rest)
    (same : digits ++ message = other ++ rest) : digits = other ∧ message = rest := by
  -- The longer of the two would go on with a digit where the shorter one was cut.
  have longer {digits message other rest more : Bytes} {digit : UInt8} (also : ∀ digit ∈ other, isDigit digit)
      (stops : Stops size digits message) (ends : Stops size other rest) (split : other = digits ++ digit :: more)
      (after : message = digit :: more ++ rest) : False := by
    have length := congrArg List.length split
    rw [List.length_append, List.length_cons] at length
    have within : other.length ≤ size := by
      rcases ends with complete | ⟨short, -⟩ <;> omega
    rcases stops with complete | ⟨-, cut⟩
    · omega
    · refine cut digit (by rw [after]; rfl) (also digit ?_)
      rw [split]
      exact List.mem_append_right _ List.mem_cons_self
  rcases List.append_eq_append_iff.mp same with ⟨_ | ⟨digit, more⟩, split, after⟩ | ⟨_ | ⟨digit, more⟩, split, after⟩
  · exact ⟨(split.trans (List.append_nil _)).symm, after⟩
  · exact (longer also stops ends split after).elim
  · exact ⟨split.trans (List.append_nil _), after.symm⟩
  · exact (longer all ends stops split after).elim

theorem Pieces.unique {pieces others : List Piece} (split : Pieces message pieces) (other : Pieces message others) :
    others = pieces := by
  induction split generalizing others with
  | nil => cases other with | nil => rfl
  | text unquoted plain rest ih =>
    cases other with
    | text _ _ also => rw [ih also]
    | string opens => exact absurd opens unquoted
    | openString opens => exact absurd opens unquoted
    | hash | block | shortHeader => exact absurd rfl plain
  | string opens split inside closes rest ih =>
    cases other with
    | text unquoted => exact absurd opens unquoted
    | string _ again within ends also =>
      obtain ⟨rfl, rfl⟩ := quoted_unique inside within closes ends (split.symm.trans again)
      rw [ih also]
    | openString _ within => exact absurd (split ▸ within) (not_quoted_closed inside closes)
    | hash | block | shortHeader => exact absurd opens (by decide)
  | openString opens inside =>
    cases other with
    | text unquoted => exact absurd opens unquoted
    | string _ again within ends => exact absurd (again ▸ inside) (not_quoted_closed within ends)
    | openString => rfl
    | hash | block | shortHeader => exact absurd opens (by decide)
  | hash bare rest ih =>
    cases other with
    | text _ plain => exact absurd rfl plain
    | string opens => exact absurd opens (by decide)
    | openString opens => exact absurd opens (by decide)
    | hash _ also => rw [ih also]
    | block counts => exact absurd counts (bare _ rfl)
    | shortHeader counts => exact absurd counts (bare _ rfl)
  | block counts split all complete rest ih =>
    cases other with
    | text _ plain => exact absurd rfl plain
    | string opens => exact absurd opens (by decide)
    | openString opens => exact absurd opens (by decide)
    | hash bare => exact absurd counts (bare _ rfl)
    | block _ again within whole also =>
      obtain ⟨rfl, rfl⟩ := digits_unique all within (.inl complete) (.inl whole) (split.symm.trans again)
      rw [ih also]
    | shortHeader _ again within short ends =>
      obtain ⟨rfl, -⟩ := digits_unique all within (.inl complete) (.inr ⟨short, ends⟩) (split.symm.trans again)
      exact absurd complete (Nat.ne_of_lt short)
  | shortHeader counts split all short ends rest ih =>
    cases other with
    | text _ plain => exact absurd rfl plain
    | string opens => exact absurd opens (by decide)
    | openString opens => exact absurd opens (by decide)
    | hash bare => exact absurd counts (bare _ rfl)
    | block _ again within whole =>
      obtain ⟨rfl, -⟩ := digits_unique all within (.inr ⟨short, ends⟩) (.inl whole) (split.symm.trans again)
      exact absurd whole (Nat.ne_of_lt short)
    | shortHeader _ again within less cut also =>
      obtain ⟨rfl, rfl⟩ := digits_unique all within (.inr ⟨short, ends⟩) (.inr ⟨less, cut⟩) (split.symm.trans again)
      rw [ih also]

theorem Pieces.bytes_eq {pieces : List Piece} (split : Pieces message pieces) :
    pieces.flatMap Piece.bytes = message := by
  induction split with
  | nil => rfl
  | text unquoted plain rest ih => rw [List.flatMap_cons, ih, Piece.bytes, List.singleton_append]
  | string opens split inside closes rest ih =>
    rw [List.flatMap_cons, ih, Piece.bytes, split, List.cons_append, List.append_assoc, List.singleton_append]
  | openString opens inside => rw [List.flatMap_cons, List.flatMap_nil, List.append_nil, Piece.bytes]
  | hash bare rest ih => rw [List.flatMap_cons, ih, Piece.bytes, List.singleton_append]
  | block counts split all complete rest ih =>
    rw [List.flatMap_cons, ih, Piece.bytes, List.append_assoc, List.take_append_drop, split]
    rfl
  | shortHeader counts split all short ends rest ih =>
    rw [List.flatMap_cons, ih, Piece.bytes, split]
    rfl

end Uniqueness

/-- Every message has one division into pieces. After a reset the policy expects a
response to the message if and only if a question mark stands among its ordinary bytes. -/
theorem response_expected_iff_marked (scanned : SCPIQueryPolicy) (message : Bytes) :
    ∃ pieces, Pieces message pieces ∧ (∀ others, Pieces message others → others = pieces) ∧
      pieces.flatMap Piece.bytes = message ∧
      (scpiQueryPolicy.disposition (scpiQueryPolicy.feed (scpiQueryPolicy.reset scanned) message) = .responseExpected ↔
        .text 63 ∈ pieces) := by
  obtain ⟨pieces, split⟩ := exists_pieces message
  have expects (state : SCPIQueryPolicy) :
      scpiQueryPolicy.disposition state = .responseExpected ↔ state.found = true := by
    cases found : state.found <;> simp [scpiQueryPolicy, found]
  exact ⟨pieces, split, fun _ other => split.unique other, split.bytes_eq,
    (expects _).trans (asks_iff split ⟨rfl, rfl⟩)⟩

end Hislip.Proofs.ProgramText
