import RpcConformance.Call.Event
import RpcConformance.Proofs.RequestTimeout
import RpcConformance.Proofs.Base64
import RpcConformance.Service.Echo

/-!
# The values that a call echoes

A client attaches texts and binary values in any order; a server finds the texts under one key
and the decoded binary values under the other, each list in its own order.  Nothing else about
the request matters to them, neither the timeout that is added nor a raw value that is no
base64.  What the server attaches to a response, the transport leaves as it is.

## Main results

* `Echo.ofMetadata_attachAll` — a server finds what was attached.
* `Echo.ofMetadata_of_undecodable` — a raw value that cannot be decoded changes nothing.
* `Echo.TrailingIn.decoded` — what carries the trailing values decodes to them.
-/

namespace RpcConformance

open Agreed

/-! ## Attaching -/

/-- A value that a client attaches to be echoed. -/
inductive Attachment
  | text (value : String)
  | binary (value : List UInt8)

namespace Attachment

/-- The texts among some values, as they travel. -/
def texts (values : List Attachment) : List HeaderValue :=
  values.filterMap fun
    | text v => some (.ofText v)
    | binary _ => none

/-- The binary values among some values. -/
def binaries (values : List Attachment) : List (List UInt8) :=
  values.filterMap fun
    | text _ => none
    | binary v => some v

end Attachment

namespace CallOptions

/-- Attaches a value; a text that may not travel is refused. -/
def attach (o : CallOptions) : Attachment → Except AsciiValueError CallOptions
  | .text v => o.withAscii leadingKey v
  | .binary v => .ok (o.withBinary trailingKey v)

/-- Attaches values, one after another. -/
def attachAll (o : CallOptions) : List Attachment → Except AsciiValueError CallOptions
  | [] => .ok o
  | v :: rest => (o.attach v).bind fun o => o.attachAll rest

end CallOptions

theorem HeaderValue.ofText_of_ofAscii {s : String} {v : HeaderValue}
    (h : HeaderValue.ofAscii s = .ok v) : v = .ofText s := by
  unfold ofAscii at h
  split at h
  · cases h
  · split at h
    · cases h
      rfl
    · cases h

/-- What attaching a text gives, where the text may travel. -/
theorem CallOptions.withAscii_eq_ok {o o' : CallOptions} {key value : String}
    (h : o.withAscii key value = .ok o') :
    HeaderValue.ofAscii value = .ok (.ofText value) ∧
      o' = { o with metadata := o.metadata.append key (.ofText value) } := by
  unfold withAscii at h
  cases hascii : HeaderValue.ofAscii value with
  | error e => rw [hascii] at h; cases h
  | ok v =>
      rw [hascii] at h
      cases h
      rw [HeaderValue.ofText_of_ofAscii hascii]
      exact ⟨rfl, rfl⟩

namespace Echo

/-! ## What a server finds -/

/-- The keys of the echoes and those that the transport uses are all different. -/
theorem keys_ne : leadingKey ≠ trailingKey ∧ Timeout.header ≠ leadingKey ∧
    Timeout.header ≠ trailingKey := by decide

theorem ofMetadata_attach {o o' : CallOptions} {v : Attachment} (h : o.attach v = .ok o') :
    ofMetadata o'.metadata = ⟨(ofMetadata o.metadata).leading ++ Attachment.texts [v],
      (ofMetadata o.metadata).trailing ++ Attachment.binaries [v]⟩ ∧ o'.scope = o.scope := by
  cases v with
  | text s =>
      obtain ⟨-, rfl⟩ := CallOptions.withAscii_eq_ok h
      refine ⟨?_, rfl⟩
      simp only [ofMetadata, Metadata.getAll_append_self,
        Metadata.getAll_append_of_ne _ _ keys_ne.1]
      simp [Attachment.texts, Attachment.binaries]
  | binary bytes =>
      cases h
      refine ⟨?_, rfl⟩
      simp only [ofMetadata, CallOptions.withBinary, Metadata.getAll_append_self,
        Metadata.getAll_append_of_ne _ _ keys_ne.1.symm]
      simp [Attachment.texts, Attachment.binaries, HeaderValue.binary?_ofBinary]

/-- **A server finds what was attached**, the texts and the binary values each in their order,
behind those that were there. -/
theorem ofMetadata_attachAll {o o' : CallOptions} {values : List Attachment}
    (h : o.attachAll values = .ok o') :
    ofMetadata o'.metadata = ⟨(ofMetadata o.metadata).leading ++ Attachment.texts values,
      (ofMetadata o.metadata).trailing ++ Attachment.binaries values⟩ ∧ o'.scope = o.scope := by
  induction values generalizing o with
  | nil =>
      cases h
      simp [Attachment.texts, Attachment.binaries]
  | cons v rest ih =>
      simp only [CallOptions.attachAll] at h
      cases hattach : o.attach v with
      | error e => rw [hattach] at h; cases h
      | ok o₁ =>
          rw [hattach] at h
          obtain ⟨hfirst, hscope⟩ := ofMetadata_attach hattach
          obtain ⟨hrest, hscope'⟩ := ih h
          refine ⟨?_, hscope'.trans hscope⟩
          rw [hrest, hfirst]
          simp only [Attachment.texts, Attachment.binaries, List.append_assoc,
            ← List.filterMap_append, List.singleton_append]

/-- **A raw trailing value that cannot be decoded changes nothing**, wherever it stands. -/
theorem ofMetadata_of_undecodable {v : HeaderValue} (before after : List (String × HeaderValue))
    (h : v.binary? = none) :
    ofMetadata ⟨before ++ (trailingKey, v) :: after⟩ = ofMetadata ⟨before ++ after⟩ := by
  have hkey : ¬trailingKey = leadingKey := keys_ne.1.symm
  simp only [ofMetadata, Metadata.getAll, List.filterMap_append, List.filterMap_cons, hkey,
    if_false, if_true, h]

/-- The timeout that is sent along is no echo. -/
theorem ofMetadata_requestMetadata (o : CallOptions) (m : Moment) :
    ofMetadata (o.requestMetadata m) = ofMetadata o.metadata := by
  unfold CallOptions.requestMetadata
  cases o.scope.remaining m with
  | none => rfl
  | some left =>
      simp only [ofMetadata, Metadata.getAll_insert_of_ne _ _ keys_ne.2.1,
        Metadata.getAll_insert_of_ne _ _ keys_ne.2.2]

/-! ## What a response carries -/

/-- Metadata with the leading values of a call, and no others of their key. -/
def LeadingIn (e : Echo) (md : Metadata) : Prop := md.getAll leadingKey = e.leading

/-- Metadata with the trailing values of a call, and no others of their key. -/
def TrailingIn (e : Echo) (md : Metadata) : Prop :=
  md.getAll trailingKey = e.trailing.map HeaderValue.ofBinary

variable {e : Echo}

/-- What carries the trailing values decodes to them. -/
theorem TrailingIn.decoded {md : Metadata} (h : e.TrailingIn md) :
    (md.getAll trailingKey).map HeaderValue.binary? = e.trailing.map some := by
  rw [show md.getAll trailingKey = _ from h, List.map_map]
  exact List.map_congr_left fun bytes _ => HeaderValue.binary?_ofBinary bytes

theorem leadingIn_headers (e : Echo) : e.LeadingIn (e.addHeaders .empty) := by
  rw [LeadingIn, addHeaders, Metadata.getAll_appendAll_self, Metadata.getAll_empty,
    List.nil_append]

theorem trailingIn_trailers (e : Echo) : e.TrailingIn (e.addTrailers .empty) := by
  rw [TrailingIn, addTrailers, Metadata.getAll_appendAll_self, Metadata.getAll_empty,
    List.nil_append]

/-- Headers of echoes are no headers of the transport. -/
theorem headers_get? {key : String} (hkey : leadingKey ≠ key) :
    (e.addHeaders .empty).get? key = none := by
  rw [Metadata.get?, addHeaders, Metadata.getAll_appendAll_of_ne _ _ hkey, Metadata.getAll_empty]
  rfl

/-- Without trailing values the pending trailers of a response are empty ones. -/
theorem pendingTrailers_respond {α : Type} (e : Echo) (message : α) :
    (e.respond message).pendingTrailers.getD .empty = e.addTrailers .empty := by
  rcases e with ⟨leading, trailing⟩
  cases trailing with
  | nil => rfl
  | cons bytes rest => rfl

/-- A status of the service's own, with the echoes of a call that fails before its headers. -/
theorem carried_fail {st : Status} (hplain : st.metadata = .empty) :
    e.LeadingIn (e.fail st).metadata ∧ e.TrailingIn (e.fail st).metadata := by
  simp only [fail, hplain, LeadingIn, TrailingIn, addTrailers, addHeaders,
    Metadata.getAll_appendAll_self, Metadata.getAll_appendAll_of_ne _ _ keys_ne.1,
    Metadata.getAll_appendAll_of_ne _ _ keys_ne.1.symm, Metadata.getAll_empty, List.nil_append,
    and_self]

end Echo

/-! ## What the transport leaves -/

namespace Status

theorem metadata_delivered (s : Status) : s.delivered.metadata = s.metadataReceived := by
  unfold delivered
  cases Percent.read s.messageHeader <;> rfl

/-- A failure does not arrive as a success. -/
theorem delivered_code_ne_ok {s : Status} (h : s.code ≠ .ok) : s.delivered.code ≠ .ok := by
  unfold delivered
  cases Percent.read s.messageHeader with
  | ok message => exact h
  | error flaw => exact nofun

theorem getAll_metadataReceived (s : Status) {key : String}
    (hcode : codeKey ≠ key) (hmessage : messageKey ≠ key) (hdetails : detailsKey ≠ key) :
    s.metadataReceived.getAll key = s.metadata.getAll key := by
  rw [metadataReceived, Metadata.getAll_remove_of_ne _ hdetails,
    Metadata.getAll_remove_of_ne _ hmessage, Metadata.getAll_remove_of_ne _ hcode]

/-- A status arrives with the echoes that it carries. -/
theorem leadingIn_delivered {e : Echo} {s : Status} (h : e.LeadingIn s.metadata) :
    e.LeadingIn s.delivered.metadata := by
  rw [metadata_delivered, Echo.LeadingIn,
    getAll_metadataReceived s (by decide) (by decide) (by decide)]
  exact h

theorem trailingIn_delivered {e : Echo} {s : Status} (h : e.TrailingIn s.metadata) :
    e.TrailingIn s.delivered.metadata := by
  rw [metadata_delivered, Echo.TrailingIn,
    getAll_metadataReceived s (by decide) (by decide) (by decide)]
  exact h

end Status

end RpcConformance
