import HomeEnergy.Account.Token
import HomeEnergy.Proofs.Json.Record

/-!
# `HomeEnergy.Proofs.Account.Token`: what the user of a token is made of

Only the header and the claims of a token are read. The user is made of the claims, and of the
address that was asked for where they name none.

* `user_eq_ok`: the user of a token, field by field.
* `user_signature`: two tokens that differ in their signatures alone stand for one user.
-/

set_option autoImplicit false

namespace HomeEnergy.Token

open HomeEnergy.Text HomeEnergy.Json

/-- The claims of a token, as a record. -/
def payload? (token : String) : Option Json := do
  let (_, part) ← parts? token
  (Scan.recordOf claimFields).read? (← Base64.decode? part)

/-- What is a text, of a field that may be absent. -/
def text? (field : Option Json) : Option String := field.bind string?

/-! ### From the token to the user -/

/-- A part that `decode` takes is Base64, with these bytes. -/
theorem decode_eq_ok {part : List Char} {bytes : List UInt8} (h : decode part = .ok bytes) :
    Base64.decode? part = some bytes := by
  unfold decode at h
  split at h
  · cases h
  · rename_i bytes' hbytes
    rw [hbytes, Except.ok.inj h]

/-- A sequence succeeds when its first part does and then what follows. -/
theorem of_bind_eq_ok {ε α β : Type} {x : Except ε α} {f : α → Except ε β} {b : β}
    (h : x >>= f = .ok b) : ∃ a, x = .ok a ∧ f a = .ok b := by
  cases x with
  | error e => cases h
  | ok a => exact ⟨a, rfl, h⟩

/-- Claims that are read come from the middle part of the token, as a record of the claims' fields.
The header has to be readable as well, but decides nothing. -/
theorem claims_eq_ok {token : String} {c : Claims} (h : claims token = .ok c) :
    ∃ payload, payload? token = some payload ∧ Claims.ofJson? payload = some c := by
  unfold claims at h
  split at h
  · cases h
  · rename_i header part hparts
    -- The header is checked, and then nothing of it is used.
    obtain ⟨headerBytes, -, h⟩ := of_bind_eq_ok h
    split at h
    · obtain ⟨bytes, hpart, h⟩ := of_bind_eq_ok h
      split at h
      · rename_i c' hc
        split at h
        · cases h
          obtain ⟨payload, hpayload, hof⟩ := Option.bind_eq_some_iff.mp hc
          refine ⟨payload, ?_, hof⟩
          exact Option.bind_eq_some_iff.mpr ⟨(header, part), hparts,
            Option.bind_eq_some_iff.mpr ⟨bytes, decode_eq_ok hpart, hpayload⟩⟩
        · cases h
      · cases h
    · cases h

/-- The claims that count for the user are the fields under their names, or at their places if the
record is an array. -/
theorem ofJson?_eq_some {payload : Json} {c : Claims} (h : Claims.ofJson? payload = some c) :
    payload.fieldAt? 0 "sub" = some (.string c.subject) ∧
      c.email = text? (payload.fieldAt? 4 "email") ∧
      c.emailVerified = (payload.fieldAt? 5 "email_verified").bind bool? := by
  unfold Claims.ofJson? at h
  obtain ⟨found, hfields, h⟩ := Option.bind_eq_some_iff.mp h
  have hfound := fields?_eq_mapIdx hfields
  split at h
  · rename_i subject expiry issuedAt issuer email verified
    -- Each field is read in turn, and all of them have to be readable.
    obtain ⟨s, hs, h⟩ := Option.bind_eq_some_iff.mp h
    obtain ⟨e, he, h⟩ := Option.bind_eq_some_iff.mp h
    obtain ⟨i, hi, h⟩ := Option.bind_eq_some_iff.mp h
    obtain ⟨r, hr, h⟩ := Option.bind_eq_some_iff.mp h
    obtain ⟨m, hm, h⟩ := Option.bind_eq_some_iff.mp h
    obtain ⟨v, hv, h⟩ := Option.bind_eq_some_iff.mp h
    cases h
    simp only [claimFields, List.mapIdx_cons, List.mapIdx_nil, List.cons.injEq] at hfound
    obtain ⟨hsub, -, -, -, hemail, hverified, -⟩ := hfound
    refine ⟨?_, ?_, ?_⟩
    · rw [← hsub, ← string?_eq_some_iff.mp hs]
    · rw [nullable?_eq rfl hm, hemail]
      rfl
    · rw [nullable?_eq rfl hv, hverified]
  · cases h

/-- The user of a token, field by field: the uid is the subject; the address is the one that the
claims name, or else the one that was asked for; it counts as confirmed only if the claims say
so. -/
theorem user_eq_ok {token fallback : String} {u : User} (h : user token fallback = .ok u) :
    ∃ payload, payload? token = some payload ∧
      payload.fieldAt? 0 "sub" = some (.string u.uid) ∧
      u.email = (text? (payload.fieldAt? 4 "email")).getD fallback ∧
      (u.emailVerified = true ↔ payload.fieldAt? 5 "email_verified" = some (.bool true)) ∧
      u.token = some token := by
  unfold user at h
  split at h
  · cases h
  · rename_i c hc
    cases h
    obtain ⟨payload, hpayload, hof⟩ := claims_eq_ok hc
    obtain ⟨hsub, hemail, hverified⟩ := ofJson?_eq_some hof
    refine ⟨payload, hpayload, hsub, by rw [hemail], ?_, rfl⟩
    -- A claim of another kind was refused before, so what is not `true` counts as unverified.
    have hbool : (payload.fieldAt? 5 "email_verified").bind bool? = some true ↔
        payload.fieldAt? 5 "email_verified" = some (.bool true) := by
      simp [Option.bind_eq_some_iff, bool?_eq_some_iff]
    rw [← hbool, ← hverified]
    cases c.emailVerified with
    | none => simp
    | some v => simp

/-! ### The signature -/

/-- The parts of a signed token are those of its body and the signature, which has no point. -/
theorem splitWhere_signed (body : String) {signature : String} (h : '.' ∉ signature.toList) :
    splitWhere (· == '.') (body ++ "." ++ signature).toList
      = splitWhere (· == '.') body.toList ++ [signature.toList] := by
  have hlist : (body ++ "." ++ signature).toList = body.toList ++ '.' :: signature.toList := by
    simp [String.toList_append]
  rw [hlist, splitWhere_append_cons rfl, splitWhere_of_not_mem h]

/-- The parts that are read do not depend on the signature. -/
theorem parts?_signature (body : String) {signature other : String} (h : '.' ∉ signature.toList)
    (hother : '.' ∉ other.toList) :
    parts? (body ++ "." ++ signature) = parts? (body ++ "." ++ other) := by
  unfold parts?
  rw [splitWhere_signed body h, splitWhere_signed body hother, List.reverse_concat,
    List.reverse_concat]
  cases (splitWhere (· == '.') body.toList).reverse with
  | nil => rfl
  | cons part before =>
    cases before with
    | nil => rfl
    | cons part' before => rfl

/-- The user without the token. -/
def bare (u : User) : User := { u with token := none }

/-- Two tokens that differ in their signatures alone stand for one user, but for the token. -/
theorem user_signature (body fallback : String) {signature other : String}
    (h : '.' ∉ signature.toList) (hother : '.' ∉ other.toList) :
    (user (body ++ "." ++ other) fallback).map bare
      = (user (body ++ "." ++ signature) fallback).map bare := by
  have hclaims : claims (body ++ "." ++ other) = claims (body ++ "." ++ signature) := by
    unfold claims
    rw [parts?_signature body hother h]
  unfold user
  rw [hclaims]
  cases claims (body ++ "." ++ signature) with
  | error issue => rfl
  | ok c => rfl

end HomeEnergy.Token
