import Froglet.Protocol.Binding
import Mathlib

/-!
# Linked identities

A descriptor may carry identities of other networks, each with a signature over a text that
names the provider and what the link is for. The parts of the text are told apart although
nothing is asked of the provider's name, so a signature is of no use in another descriptor.
-/

namespace Froglet

open List
variable {P : Primitives}

/-! ## Reading a challenge from its end -/

theorem toList_loop (bytes : ByteArray) (i : ℕ) (read : List UInt8) :
    ByteArray.toList.loop bytes i read = read.reverse ++ bytes.data.toList.drop i := by
  rw [ByteArray.toList.loop]
  split
  case isTrue h =>
    have hlt : i < bytes.data.toList.length := h
    rw [toList_loop bytes (i + 1), drop_eq_getElem_cons hlt]
    simp [ByteArray.get!, getElem!_pos bytes.data i h]
  case isFalse h =>
    have hle : bytes.data.toList.length ≤ i := not_lt.mp h
    rw [drop_eq_nil_of_le hle, append_nil]
termination_by bytes.size - i

theorem textBytes_injective : Function.Injective textBytes := by
  intro a b h
  unfold textBytes ByteArray.toList at h
  rw [toList_loop, toList_loop] at h
  refine String.toByteArray_inj.mp (ByteArray.ext (Array.toList_inj.mp ?_))
  simpa using h

theorem eq_of_append_separator {α : Type} {x : α} {u u' v v' : List α} (hv : x ∉ v)
    (hv' : x ∉ v') (h : u ++ x :: v = u' ++ x :: v') : u = u' ∧ v = v' := by
  obtain ⟨w, hw, hrest⟩ | ⟨w, hw, hrest⟩ := append_eq_append_iff.mp h
  all_goals
    cases w with
    | nil => simp_all
    | cons y w => simp_all

theorem not_mem_toString (n : ℤ) : '\n' ∉ (toString n).toList := by
  have hdigits (m : ℕ) : '\n' ∉ Nat.toDigits 10 m := fun hmem => by
    cases Nat.isDigit_of_mem_toDigits (by decide) (by decide) hmem
  rw [Int.toString_eq_repr]
  cases n with
  | ofNat m =>
    rw [Int.repr, Nat.toList_repr]
    exact hdigits m
  | negSucc m =>
    rw [Int.repr, String.toList_append, Nat.toList_repr]
    simpa using hdigits (m + 1)

theorem toString_ne_dash (n : ℤ) : toString n ≠ "-" := by
  intro h
  have htext := congrArg String.toList h
  rw [Int.toString_eq_repr] at htext
  cases n with
  | ofNat m =>
    rw [Int.repr, Nat.toList_repr] at htext
    have hdigit : '-' ∈ Nat.toDigits 10 m := by simp [htext]
    cases Nat.isDigit_of_mem_toDigits (by decide) (by decide) hdigit
  | negSucc m =>
    rw [Int.repr, String.toList_append, Nat.toList_repr] at htext
    exact Nat.toDigits_ne_nil (cons.inj htext).2

theorem not_mem_expires (expiresAt : Option ℤ) :
    '\n' ∉ ((expiresAt.map toString).getD "-").toList := by
  cases expiresAt with
  | none => decide
  | some n => exact not_mem_toString n

theorem expires_injective {a b : Option ℤ}
    (h : (a.map toString).getD "-" = (b.map toString).getD "-") : a = b := by
  cases a <;> cases b
  case none.none => rfl
  case none.some => exact absurd h.symm (toString_ne_dash _)
  case some.none => exact absurd h (toString_ne_dash _)
  case some.some => exact congrArg some (Int.repr_injective h)

theorem toList_challenge (a b c d e f g : String) : ("\n".intercalate [a, b, c, d, e, f, g]).toList
      = a.toList ++ '\n' :: b.toList ++ '\n' :: c.toList ++ '\n' :: d.toList
        ++ '\n' :: e.toList ++ '\n' :: f.toList ++ '\n' :: g.toList := by
  show (a ++ "\n" ++ b ++ "\n" ++ c ++ "\n" ++ d ++ "\n" ++ e ++ "\n" ++ f ++ "\n" ++ g).toList = _
  simp

theorem not_mem_of_isLowerHex {text : String} (h : text.toList.all isLowerHexChar = true) :
    '\n' ∉ text.toList := fun hmem => by cases all_eq_true.mp h _ hmem

/-- What an accepted identity shows: a signature of the challenge under its key. -/
theorem challenge_of_validateLinkedNostrIdentity {providerId : String}
    {x : LinkedIdentity} (h : validateLinkedNostrIdentity P providerId x = .ok ()) :
    x.identity.toList.all isLowerHexChar = true
      ∧ ∃ scopeBytes, P.canonicalJson (toJson x.scope) = .ok scopeBytes
        ∧ P.verifyMessage x.identity x.linkedSignature (textBytes ("\n".intercalate
          ["froglet:identity_link:v1", providerId, x.identityKind, x.identity,
            P.sha256Hex scopeBytes, toString x.createdAt,
            (x.expiresAt.map toString).getD "-"])) = true := by
  unfold validateLinkedNostrIdentity linkedIdentityChallengeBytes at h
  simp only [↓check_eq_ok, bind_eq_ok, rejectIf_eq_ok, pure_eq_ok, Bool.not_eq_false'] at h
  obtain ⟨hkey, -, -, -, -, challenge, ⟨scopeBytes, hscope, rfl⟩, hverified⟩ := h
  unfold isLowerHexLen at hkey
  exact ⟨(Bool.and_eq_true_iff.mp hkey).2, scopeBytes, hscope, hverified⟩

/-- A link of a descriptor that its validation has looked at and accepted. -/
def AcceptsLink (P : Primitives) (d : DescriptorPayload) (x : LinkedIdentity) : Prop :=
  x ∈ d.linkedIdentities ∧ x.identityKind = linkedIdentityKindNostr
    ∧ validateLinkedNostrIdentity P d.providerId x = .ok ()

/-- **A linked signature does not transfer.** -/
theorem linked_signature_bound (d₁ d₂ : DescriptorPayload)
    (x₁ x₂ : LinkedIdentity) (h₁ : AcceptsLink P d₁ x₁) (h₂ : AcceptsLink P d₂ x₂)
    (hkey : x₁.identity = x₂.identity) (hsignature : x₁.linkedSignature = x₂.linkedSignature)
    (hsigned : ∀ m₁ m₂, P.verifyMessage x₁.identity x₁.linkedSignature m₁ = true →
      P.verifyMessage x₁.identity x₁.linkedSignature m₂ = true → m₁ = m₂)
    (hhex : ∀ bytes, (P.sha256Hex bytes).toList.all isLowerHexChar = true)
    (hsha : ∀ b₁ b₂, P.canonicalJson (toJson x₁.scope) = .ok b₁ →
      P.canonicalJson (toJson x₂.scope) = .ok b₂ → P.NoCollisionAmong [b₁, b₂])
    (hjson : ∀ bytes, P.canonicalJson (toJson x₁.scope) = .ok bytes →
      P.canonicalJson (toJson x₂.scope) = .ok bytes → x₁.scope = x₂.scope) :
    d₁.providerId = d₂.providerId ∧ x₁.scope = x₂.scope ∧ x₁.createdAt = x₂.createdAt
      ∧ x₁.expiresAt = x₂.expiresAt := by
  obtain ⟨-, hkind₁, h₁⟩ := h₁
  obtain ⟨-, hkind₂, h₂⟩ := h₂
  obtain ⟨hkey₁, b₁, hscope₁, hverified₁⟩ := challenge_of_validateLinkedNostrIdentity h₁
  obtain ⟨-, b₂, hscope₂, hverified₂⟩ := challenge_of_validateLinkedNostrIdentity h₂
  rw [← hkey, ← hsignature] at hverified₂
  have htext := congrArg String.toList (textBytes_injective (hsigned _ _ hverified₁ hverified₂))
  rw [toList_challenge, toList_challenge] at htext
  -- nothing is known of the provider's text, so the parts are read from the end
  obtain ⟨htext, hexpires⟩ := eq_of_append_separator (not_mem_expires _) (not_mem_expires _) htext
  obtain ⟨htext, hcreated⟩ := eq_of_append_separator (not_mem_toString _) (not_mem_toString _) htext
  obtain ⟨htext, hhash⟩ := eq_of_append_separator (not_mem_of_isLowerHex (hhex _))
    (not_mem_of_isLowerHex (hhex _)) htext
  obtain ⟨htext, -⟩ := eq_of_append_separator (not_mem_of_isLowerHex hkey₁)
    (not_mem_of_isLowerHex hkey₁) htext
  rw [hkind₁, hkind₂] at htext
  obtain ⟨htext, -⟩ := eq_of_append_separator (by decide) (by decide) htext
  have hbytes : b₁ = b₂ := hsha b₁ b₂ hscope₁ hscope₂ b₁ (by simp) b₂ (by simp)
    (String.toList_inj.mp hhash)
  refine ⟨String.toList_inj.mp (cons.inj (append_cancel_left htext)).2,
    hjson b₁ hscope₁ (hbytes ▸ hscope₂), Int.repr_injective (String.toList_inj.mp hcreated),
    expires_injective (String.toList_inj.mp hexpires)⟩

def sampleLink : LinkedIdentity where
  identityKind := linkedIdentityKindNostr
  identity := String.ofList (replicate 64 'a')
  scope := ["publication.a"]
  createdAt := 1
  expiresAt := none
  signatureAlgorithm := linkedIdentitySignatureAlgorithmBip340
  linkedSignature := String.ofList (replicate 128 'a')

def sampleLinkPrimitives : Primitives where
  sha256Hex _ := "aa"
  canonicalJson _ := .ok []
  verifyMessage _ _ message := message == textBytes ("\n".intercalate
    ["froglet:identity_link:v1", "p", "nostr", sampleLink.identity, "aa", "1", "-"])

def sampleLinkedDescriptor (seq : ℕ) : DescriptorPayload where
  providerId := "p"
  descriptorSeq := seq
  protocolVersion := frogletSchemaV1
  expiresAt := none
  linkedIdentities := [sampleLink]
  transportEndpoints := []
  capabilities := ⟨[], [], none⟩
  acceptedPaymentMethods := []

theorem linked_signature_bound_sample :
    AcceptsLink sampleLinkPrimitives (sampleLinkedDescriptor 1) sampleLink
      ∧ (sampleLinkedDescriptor 1).providerId = (sampleLinkedDescriptor 2).providerId := by
  have hok : validateLinkedNostrIdentity sampleLinkPrimitives "p" sampleLink = .ok () := by
    decide +kernel
  have hlink (seq : ℕ) : AcceptsLink sampleLinkPrimitives (sampleLinkedDescriptor seq) sampleLink :=
    ⟨mem_singleton_self _, rfl, hok⟩
  have hhex : ("aa".toList.all isLowerHexChar) = true := by decide
  refine ⟨hlink 1, (linked_signature_bound _ _ sampleLink sampleLink (hlink 1) (hlink 2) rfl rfl
    (fun _ _ h₁ h₂ => (beq_iff_eq.mp h₁).trans (beq_iff_eq.mp h₂).symm) (fun _ => hhex)
    (fun _ _ h₁ h₂ => ?_) (fun _ _ _ => rfl)).1⟩
  obtain rfl := Except.ok.inj (h₁.symm.trans h₂)
  simp [Primitives.NoCollisionAmong]

end Froglet
