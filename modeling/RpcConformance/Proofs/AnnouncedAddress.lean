import RpcConformance.Proofs.AddressText
import RpcConformance.Proofs.DescriptorLine

/-!
# Dialling the address that a server announced

A server announces its address without brackets, and the client puts it before the port as it
is.  So the client dials the announced address if it is one of four numbers.  The URI of any other
address is refused for its colons; in brackets the same address could be dialled.

## Main results

* `Target.leadsTo_four`, `Target.fault?_eight`, `Target.leadsTo_inBrackets` — the URIs of
  addresses.
* `ClientProgram.announced_address_dialled` — from the line of a server to the URI of a client.
-/

namespace RpcConformance

namespace Target

/-- The URI can be dialled, and its authority names the machine and the port. -/
structure LeadsTo (c : Target) (machine : String) (port : Nat) : Prop where
  dialable : c.fault? = none
  machine : c.machine = machine
  port : c.dialledPort = port

/-- The target with brackets around its host. -/
def inBrackets (c : Target) : Target := { c with host := "[" ++ c.host ++ "]" }

variable {c : Target}

/-- An address of four numbers can be dialled bare. -/
theorem leadsTo_four {value : BitVec 32} (hhost : c.host = (IpAddress.v4 value).text)
    (hport : c.port < powerOfTwo 16) : c.LeadsTo (IpAddress.v4 value).text c.port := by
  have hpiece : IpAddress.Piece (IpAddress.v4 value).text.toList 0 15 :=
    IpAddress.piece_fourText value
  rw [← hhost] at hpiece ⊢
  refine ⟨?_, machine_bare hpiece.chars (List.count_eq_zero.mp hpiece.count),
    dialledPort_eq hpiece.chars.noPath hport⟩
  rw [fault?_bare hpiece.chars (Nat.le_trans hpiece.length (by decide)) hport, if_pos hpiece.count]

/-- An address of eight groups cannot be dialled bare. -/
theorem fault?_eight {value : BitVec 128} (hhost : c.host = (IpAddress.v6 value).text)
    (hport : c.port < powerOfTwo 16) : c.fault? = some .badAuthority := by
  obtain ⟨colons, hsome, -, hpiece⟩ : ∃ colons, 2 ≤ colons ∧ colons ≤ 8 ∧
      IpAddress.Piece (IpAddress.v6 value).text.toList colons 62 := IpAddress.piece_eightText value
  rw [← hhost] at hpiece
  rw [fault?_bare hpiece.chars (Nat.le_trans hpiece.length (by decide)) hport,
    if_neg (by rw [hpiece.count]; omega)]

/-- In brackets it can be. -/
theorem leadsTo_inBrackets {value : BitVec 128} (hhost : c.host = (IpAddress.v6 value).text)
    (hport : c.port < powerOfTwo 16) :
    c.inBrackets.LeadsTo (IpAddress.v6 value).text c.port := by
  obtain ⟨colons, -, hfew, hpiece⟩ : ∃ colons, 2 ≤ colons ∧ colons ≤ 8 ∧
      IpAddress.Piece (IpAddress.v6 value).text.toList colons 62 := IpAddress.piece_eightText value
  rw [← hhost] at hpiece ⊢
  have hchars : c.inBrackets.host.toList = '[' :: c.host.toList ++ [']'] := by
    rw [inBrackets, String.toList_append, String.toList_append]
    rfl
  have hnoPath : ∀ d ∈ c.inBrackets.host.toList, d ≠ '/' ∧ d ≠ '?' ∧ d ≠ '#' :=
    hchars ▸ forall_brackets (by decide) (by decide) hpiece.chars.noPath
  have hcolons : c.host.toList.count ':' ≤ Authority.maxColons := le_of_eq_of_le hpiece.count hfew
  have hmachine := machine_bracketed hchars hpiece.chars
  rw [String.ofList_toList] at hmachine
  exact ⟨fault?_bracketed hchars hpiece.chars hpiece.length hcolons hport, hmachine,
    dialledPort_eq hnoPath hport⟩

end Target

namespace CommandLine.ClientProgram

/-- The client takes the host and the port from the first line of what a server prints. -/
theorem serverConfig_grpc {s : ClientSettings} (hcross : s.cross = true) (host : String)
    {port : Nat} (hport : port < powerOfTwo 16) (rest : String) :
    serverConfig s ((Descriptor.grpc host port).line ++ "\n" ++ rest) =
      .ok { host := host, port := port, compression := s.compression } := by
  have hread := Descriptor.ofLine_firstLine (Descriptor.inRange_grpc host port) rest
  have hported := Descriptor.portFor_grpc host hport
  rw [serverConfig, if_pos hcross]
  simp only [hread, hported]
  rfl

/-- **What a client dials that reads the address of its server.**  It dials the very address and
port that the server announced where the address is one of four numbers.  It can dial no other
address: the URI of one of eight groups is refused, since it lacks the brackets with which it would
lead there. -/
theorem announced_address_dialled {s : ClientSettings} (hcross : s.cross = true) (a : IpAddress)
    {port : Nat} (hport : port < powerOfTwo 16) (rest : String) :
    ∃ c, serverConfig s ((Descriptor.grpc a.text port).line ++ "\n" ++ rest) = .ok c ∧
      c.compression = s.compression ∧
      match a with
      | .v4 _ => c.LeadsTo a.text port ∧ IpAddress.ofBare? c.machine = some a
      | .v6 _ => c.fault? = some .badAuthority ∧ c.inBrackets.LeadsTo a.text port := by
  refine ⟨_, serverConfig_grpc hcross a.text hport rest, rfl, ?_⟩
  cases a with
  | v4 value =>
      have hleads := Target.leadsTo_four
        (c := { host := (IpAddress.v4 value).text, port := port, compression := s.compression })
        rfl hport
      refine ⟨hleads, ?_⟩
      rw [hleads.machine]
      exact IpAddress.ofBare?_fourText value
  | v6 value => exact ⟨Target.fault?_eight rfl hport, Target.leadsTo_inBrackets rfl hport⟩

/-- The address that a server announces by default. -/
theorem loopback_dialled :
    ∃ c, serverConfig { cross := true }
        ((Descriptor.grpc "127.0.0.1" 50051).line ++ "\n" ++ "") = .ok c ∧
      c.LeadsTo "127.0.0.1" 50051 := by
  have htext : (IpAddress.v4 2130706433).text = "127.0.0.1" := by decide +kernel
  obtain ⟨c, hconfig, -, hleads, -⟩ :=
    announced_address_dialled (s := { cross := true }) rfl (.v4 2130706433)
      (by decide : 50051 < powerOfTwo 16) ""
  rw [htext] at hconfig hleads
  exact ⟨c, hconfig, hleads⟩

/-- The other address of the machine itself is refused. -/
theorem eightGroup_loopback_refused :
    (IpAddress.v6 1).text = "::1" ∧
      ∃ c, serverConfig { cross := true }
          ((Descriptor.grpc "::1" 8080).line ++ "\n" ++ "") = .ok c ∧
        c.uri = "http://::1:8080" ∧ c.fault? = some .badAuthority ∧ ¬ c.LeadsTo "::1" 8080 := by
  have hconfig := serverConfig_grpc (s := { cross := true }) rfl "::1"
    (by decide : 8080 < powerOfTwo 16) ""
  have hfault : Target.fault? { host := "::1", port := 8080 } = some .badAuthority := by
    decide +kernel
  refine ⟨by decide +kernel, _, hconfig, by decide +kernel, hfault, fun hleads => ?_⟩
  have hnone := hleads.dialable
  rw [hfault] at hnone
  cases hnone

end CommandLine.ClientProgram

end RpcConformance
