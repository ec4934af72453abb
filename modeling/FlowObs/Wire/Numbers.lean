import FlowObs.Wire.Requests

/-!
# The numbers of requests

`FieldMap::number` multiplies without a check, gives the fallback for a text that is no number, and its result is
taken for a signed instant by `Tick`. A number that a request gives is therefore the number of its text just when that
is a numeral within the range of what it goes to (`numbers_exact_iff`).
-/

namespace FlowObs.Wire

open Decimal

/-- The fields of a request that are numbers. -/
def RequestKind.numbers : RequestKind → List Str
  | .Query => [str "limit", str "offset"]
  | .Explain => []
  | .History => [str "limit"]
  | .Attribution => [str "generation"]
  | .Tick => [str "now"]

/-- What a request has for a field. -/
def Request.number : Request → Str → Option Int
  | .query options, name =>
    if name = str "limit" then some options.query.limit.toNat
    else if name = str "offset" then some options.query.offset.toNat
    else none
  | .explain _, _ => none
  | .history _ limit, name => if name = str "limit" then some limit.toNat else none
  | .attribution _ generation, name => if name = str "generation" then some generation.value.toNat else none
  | .tick instant, name => if name = str "now" then some instant.nanos.toInt else none

/-- The range of a number: an instant is signed. -/
def RequestKind.bound : RequestKind → Nat
  | .Tick => 2 ^ 63
  | .Query | .Explain | .History | .Attribution => 2 ^ 64

/-- Each number of a request is the one that its text denotes, or the request is refused. -/
def NumbersExact (e : Engine) (kind : RequestKind) (payload : Str) : Prop :=
  (∃ text, (e.dispatch kind payload).2 = .error text) ∨
    ∃ request, decodeRequest e.now kind payload = .ok request ∧ ∀ name ∈ kind.numbers, ∀ text,
      lastField (words payload) name = some text → ∃ n, numeral? text = some n ∧ request.number name = some (n : Int)

/-- Each number of a payload is a numeral within its range. -/
def NumbersFit (kind : RequestKind) (payload : Str) : Prop :=
  ∀ name ∈ kind.numbers, ∀ text, lastField (words payload) name = some text → ∃ n, numeral? text = some n ∧
  n < kind.bound

/-! ## What the numbers become -/

/-- What a kind of request makes of an unsigned number. -/
def RequestKind.taken : RequestKind → Nat → Int
  | .Tick, n => if n < 2 ^ 63 then n else n - 2 ^ 64
  | .Query, n | .Explain, n | .History, n | .Attribution, n => n

/-- **The number of a field is what is left of its text.** -/
theorem decodeRequest_number {now : Timestamp} {kind : RequestKind} {payload name text : Str} {request : Request}
    (h : decodeRequest now kind payload = .ok request) (hname : name ∈ kind.numbers)
    (hlast : lastField (words payload) name = some text) :
    ∃ fallback, request.number name = some (kind.taken (numberLeft fallback text)) := by
  have hleft : ∀ {m : FieldMap} {maxFields : Nat} (fallback : UInt64), parseFields payload maxFields = .ok m →
      (m.number name fallback).toNat = numberLeft fallback text := by
    intro m maxFields fallback hparse
    rw [toNat_number hparse, leftOf, hlast]
  cases kind with
  | Query =>
    unfold decodeRequest decodeQuery at h
    dsimp only at h
    split at h
    · cases h
    · rename_i m hparse
      obtain ⟨state, -, h⟩ := bind_ok.1 h
      obtain ⟨flow, -, h⟩ := bind_ok.1 h
      cases h
      rcases List.mem_cons.1 hname with rfl | hname
      · exact ⟨100, by simp [Request.number, RequestKind.taken, hleft 100 hparse]⟩
      · obtain rfl := List.mem_singleton.1 hname
        exact ⟨0, by simp [Request.number, RequestKind.taken, str_inj, hleft 0 hparse]⟩
  | Explain => cases hname
  | History =>
    obtain ⟨p, hp, rfl⟩ := map_ok.1 h
    obtain rfl := List.mem_singleton.1 hname
    exact ⟨64, by simp [Request.number, RequestKind.taken, hleft 64 (decodeNamed_ok.1 hp).1]⟩
  | Attribution =>
    obtain ⟨p, hp, rfl⟩ := map_ok.1 h
    obtain rfl := List.mem_singleton.1 hname
    exact ⟨0, by simp [Request.number, RequestKind.taken, hleft 0 (decodeNamed_ok.1 hp).1]⟩
  | Tick =>
    unfold decodeRequest decodeTick at h
    dsimp only at h
    obtain rfl := List.mem_singleton.1 hname
    split at h
    · cases h
    · rename_i m hparse
      rw [get?_parseFields hparse, hlast] at h
      cases h
      refine ⟨0, ?_⟩
      simp only [Request.number, if_true, RequestKind.taken, toInt_reinterpreted, hleft 0 hparse]

/-- A number is exact just when its text is a numeral within the range. -/
theorem taken_exact (kind : RequestKind) (fallback : UInt64) (text : Str) :
    (∃ n, numeral? text = some n ∧ kind.taken (numberLeft fallback text) = n) ↔ ∃ n, numeral? text = some n ∧
    n < kind.bound := by
  refine exists_congr fun n => and_congr_right fun hn => ?_
  obtain ⟨⟨-, hdigits⟩, hvalue⟩ := numeral?_eq_some.1 hn
  have hleft : numberLeft fallback text = n % 2 ^ 64 := by rw [numberLeft, if_pos hdigits, hvalue]
  rw [hleft]
  cases kind <;> simp only [RequestKind.taken, RequestKind.bound]
  case Tick =>
    split <;> omega
  all_goals omega

/-- **The numbers of a request are exact or refused** just when the request is not served at all, or each is a numeral
within the range of what it goes to. -/
theorem numbers_exact_iff (e : Engine) (kind : RequestKind) (payload : Str) :
    NumbersExact e kind payload ↔ ¬ Served e kind payload ∨ NumbersFit kind payload := by
  unfold NumbersExact
  by_cases hserved : Served e kind payload
  · have hanswered := dispatch_served kind |>.2 hserved
    obtain ⟨request, hrequest, -⟩ := dispatch_ok.1 hanswered
    have hnot : ¬ ∃ text, (e.dispatch kind payload).2 = .error text := ok_iff_not_error.1 hanswered
    simp only [hnot, hserved, not_true, false_or, hrequest, Except.ok.injEq]
    constructor
    · rintro ⟨_, rfl, hexact⟩ name hname text hlast
      obtain ⟨fallback, hnumber⟩ := decodeRequest_number hrequest hname hlast
      obtain ⟨n, hn, heq⟩ := hexact name hname text hlast
      rw [hnumber] at heq
      exact (taken_exact kind fallback text).1 ⟨n, hn, Option.some.inj heq⟩
    · intro hfit
      refine ⟨request, rfl, fun name hname text hlast => ?_⟩
      obtain ⟨fallback, hnumber⟩ := decodeRequest_number hrequest hname hlast
      obtain ⟨n, hn, heq⟩ := (taken_exact kind fallback text).2 (hfit name hname text hlast)
      exact ⟨n, hn, by rw [hnumber, heq]⟩
  · have herror : ∃ text, (e.dispatch kind payload).2 = .error text := by
      by_contra hno
      exact hserved ((dispatch_served kind).1 (ok_iff_not_error.2 hno))
    simp only [herror, hserved, not_false_eq_true, true_or]

/-- A query whose limit is five more than 64 bits hold is answered as one with the limit five. -/
theorem limit_wraps : ¬ ∀ (e : Engine) (kind : RequestKind) (payload : Str), NumbersExact e kind payload := by
  intro h
  have hanswered : ((default : Engine).dispatch .Query (str "limit=18446744073709551621")).2.toOption.isSome =
      true := by
    with_unfolding_all decide
  have hlast : lastField (words (str "limit=18446744073709551621")) (str "limit") =
      some (str "18446744073709551621") := by
    with_unfolding_all decide
  have hbig : numeral? (str "18446744073709551621") = some 18446744073709551621 := by with_unfolding_all decide
  rcases h default .Query (str "limit=18446744073709551621") with ⟨text, herror⟩ | ⟨request, hrequest, hexact⟩
  · rw [herror] at hanswered
    cases hanswered
  · have hread : (decodeRequest (default : Engine).now .Query (str "limit=18446744073709551621")).toOption.bind
        (fun request => request.number (str "limit")) = some 5 := by
      with_unfolding_all decide
    obtain ⟨n, hn, hnumber⟩ := hexact (str "limit") List.mem_cons_self _ hlast
    rw [hrequest] at hread
    rw [hbig] at hn
    obtain rfl := Option.some.inj hn
    cases hnumber.symm.trans hread

end FlowObs.Wire
