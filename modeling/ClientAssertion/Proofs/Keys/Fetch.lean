/-
**One fetch of a key set.**

* `Succeeds` says what a reply has to be to yield a key set, and `keysOfReply_eq_ok_iff` that it
  need not be more;
* `Fetch` relates a fetch to the exchange that it makes with the server, none where the URL may not
  be requested, to its result and to what it leaves of the network;
* `recording` keeps the exchanges of a transport, and `fetch_recording`: that changes nothing else.
-/

import ClientAssertion.Keys.Remote
import Mathlib.Logic.Basic
import Mathlib.Tactic.SplitIfs

namespace ClientAssertion.RemoteKeys

variable {Network : Type}

/-! ### Replies -/

/-- A URL names its host securely, or need not. -/
def IsSecure (settings : RemoteSettings) (url : String) : Prop :=
  settings.requireHttps = true → "https://".toList <+: url.toList

/-- **A reply yields a key set**: it reports success, no more octets are declared or sent than are
allowed, all of them arrived, and they spell the set. -/
inductive Yields (settings : RemoteSettings) : Reply → KeySet → Prop where
  | complete {status : Nat} {declaredLength : Option Nat} {body : Bytes} {keys : KeySet}
      (success : 200 ≤ status ∧ status < 300)
      (declared : ∀ length, declaredLength = some length → length ≤ settings.maxResponseSize)
      (short : body.length ≤ settings.maxResponseSize) (readable : KeySet.read? body = some keys) :
      Yields settings (.response status declaredLength (some body)) keys

theorem isSuccess_iff {status : Nat} :
    Status.isSuccess status = true ↔ 200 ≤ status ∧ status < 300 := by
  simp [Status.isSuccess]

/-- The keys of a reply are read exactly if it yields them. -/
theorem keysOfReply_eq_ok_iff {settings : RemoteSettings} {reply : Reply} {keys : KeySet} :
    keysOfReply settings reply = .ok keys ↔ Yields settings reply keys := by
  constructor
  · intro fetched
    cases reply with
    | unreachable => cases fetched
    | response status declaredLength body =>
      simp only [keysOfReply] at fetched
      split_ifs at fetched with success declaredLong
      cases body with
      | none => cases fetched
      | some body =>
        simp only at fetched
        split_ifs at fetched with long
        cases readable : KeySet.read? body with
        | none =>
          rw [readable] at fetched
          cases fetched
        | some found =>
          rw [readable] at fetched
          obtain rfl := Except.ok.inj fetched
          refine .complete (isSuccess_iff.mp success) ?_ (Nat.not_lt.mp long) readable
          rintro length rfl
          simpa using declaredLong
  · rintro ⟨success, declared, short, readable⟩
    rename_i status declaredLength body
    have fits : ¬declaredLength.any (settings.maxResponseSize < ·) = true := by
      cases declaredLength with
      | none => simp
      | some length => simpa using declared length rfl
    simp only [keysOfReply]
    rw [if_neg (not_not.mpr (isSuccess_iff.mpr success)), if_neg fits, if_neg (Nat.not_lt.mpr short),
      readable]

theorem isAllowed_iff {settings : RemoteSettings} {url : String} :
    isAllowed settings url = true ↔ IsSecure settings url := by
  unfold isAllowed IsSecure
  cases settings.requireHttps <;> simp

/-! ### Fetches -/

/-- A request with its reply. -/
structure Exchange where
  url : String
  reply : Reply
deriving DecidableEq

/-- An exchange fetched a key set. -/
structure Exchange.Succeeds (settings : RemoteSettings) (exchange : Exchange) (keys : KeySet) :
    Prop where
  secure : IsSecure settings exchange.url
  yields : Yields settings exchange.reply keys

/-- What is said of a URL that may not be requested. -/
def insecure : AuthError := .refused "JWK Set URL must use HTTPS"

/-- **One fetch**: a URL that may not be requested is not, and another one is requested once. -/
inductive Fetch (settings : RemoteSettings) (transport : Transport Network) (url : String)
    (network : Network) : List Exchange → Except AuthError KeySet → Network → Prop where
  | refused (notSecure : ¬IsSecure settings url) :
      Fetch settings transport url network [] (.error insecure) network
  | replied (secure : IsSecure settings url) :
      Fetch settings transport url network [⟨url, (transport url network).1⟩]
        (keysOfReply settings (transport url network).1) (transport url network).2

namespace Fetch

variable {settings : RemoteSettings} {transport : Transport Network} {url : String}
  {network left : Network} {exchanges : List Exchange} {result : Except AuthError KeySet}

theorem length_le_one (fetch : Fetch settings transport url network exchanges result left) :
    exchanges.length ≤ 1 := by
  cases fetch with
  | refused => exact Nat.zero_le 1
  | replied => exact Nat.le_refl 1

theorem of_mem (fetch : Fetch settings transport url network exchanges result left)
    {exchange : Exchange} (member : exchange ∈ exchanges) :
    exchange.url = url ∧ IsSecure settings url := by
  cases fetch with
  | refused => cases member
  | replied secure =>
    obtain rfl := List.mem_singleton.mp member
    exact ⟨rfl, secure⟩

/-- **A fetch has a result exactly when its exchange succeeds.** -/
theorem ok_iff (fetch : Fetch settings transport url network exchanges result left) (keys : KeySet) :
    result = .ok keys ↔
      ∃ reply, exchanges = [⟨url, reply⟩] ∧ Exchange.Succeeds settings ⟨url, reply⟩ keys := by
  cases fetch with
  | refused => exact ⟨nofun, fun ⟨_, impossible, _⟩ => nomatch impossible⟩
  | replied secure =>
    rw [keysOfReply_eq_ok_iff]
    constructor
    · exact fun yields => ⟨_, rfl, secure, yields⟩
    · rintro ⟨reply, same, succeeds⟩
      obtain ⟨-, rfl⟩ := Exchange.mk.inj (List.singleton_inj.mp same)
      exact succeeds.yields

theorem not_succeeds (fetch : Fetch settings transport url network exchanges result left)
    (failed : ∀ keys, result ≠ .ok keys) :
    ∀ exchange ∈ exchanges, ∀ keys, ¬exchange.Succeeds settings keys := by
  intro exchange member keys succeeds
  cases fetch with
  | refused => cases member
  | replied =>
    obtain rfl := List.mem_singleton.mp member
    exact failed keys (keysOfReply_eq_ok_iff.mpr succeeds.yields)

end Fetch

/-! ### Exchanges -/

/-- The transport that keeps its exchanges. -/
def recording (transport : Transport Network) : Transport (Network × List Exchange) :=
  fun url network =>
    ((transport url network.1).1,
      ((transport url network.1).2, network.2 ++ [⟨url, (transport url network.1).1⟩]))

/-- The exchanges of a fetch. -/
def exchangesOf (settings : RemoteSettings) (transport : Transport Network) (url : String)
    (network : Network) : List Exchange :=
  if isAllowed settings url then [⟨url, (transport url network).1⟩] else []

/-- Keeping the exchanges changes nothing else. -/
theorem fetch_recording (settings : RemoteSettings) (transport : Transport Network) (url : String)
    (network : Network) (log : List Exchange) :
    fetch settings (recording transport) url (network, log) =
      ((fetch settings transport url network).1, (fetch settings transport url network).2,
        log ++ exchangesOf settings transport url network) := by
  unfold fetch exchangesOf
  split_ifs with allowed
  · rfl
  · rw [List.append_nil]

theorem fetch_eq (settings : RemoteSettings) (transport : Transport Network) (url : String)
    (network : Network) :
    Fetch settings transport url network (exchangesOf settings transport url network)
      (fetch settings transport url network).1 (fetch settings transport url network).2 := by
  unfold fetch exchangesOf
  split_ifs with allowed
  · exact .replied (isAllowed_iff.mp allowed)
  · exact .refused fun secure => allowed (isAllowed_iff.mpr secure)

end ClientAssertion.RemoteKeys
