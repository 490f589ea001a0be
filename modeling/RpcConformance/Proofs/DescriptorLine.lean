import RpcConformance.CommandLine.ClientProgram
import RpcConformance.Proofs.Delimiters
import RpcConformance.Proofs.DescriptorSpelling

/-!
# The line of a descriptor is a faithful handshake

The line of a descriptor is one of its texts, so it is read as that descriptor, with white space
around it or without.  It holds no control character, so it is one line of what a server prints.

## Main results

* `Descriptor.ofLine_line` — the line is read back, with white space around it.
* `Descriptor.line_is_faithful` — so is the first line of an output.
-/

namespace RpcConformance

open Json

namespace Descriptor

/-! ## The line -/

theorem toList_line (d : Descriptor) : d.line.toList = d.toJson.compact := String.toList_ofList

/-- White space around a line is no part of it. -/
theorem ofLine_line {d : Descriptor} (h : d.InRange) (before after : String)
    (hbefore : ∀ c ∈ before.toList, Text.isBlank c = true)
    (hafter : ∀ c ∈ after.toList, Text.isBlank c = true) :
    ofLine (before ++ d.line ++ after) = .ok d := by
  refine ofLine_of_isText h ?_
  rw [String.toList_append, String.toList_append]
  exact isText_line d hbefore hafter

theorem newline_notMem_line (d : Descriptor) : '\n' ∉ d.line.toList := by
  intro hmem
  rw [toList_line] at hmem
  exact absurd (printable_compact d.toJson '\n' hmem) (by decide)

theorem return_notMem_line (d : Descriptor) : '\r' ∉ d.line.toList := by
  intro hmem
  rw [toList_line] at hmem
  exact absurd (printable_compact d.toJson '\r' hmem) (by decide)

end Descriptor

namespace CommandLine.ClientProgram

theorem firstLine_append {line : String} (h : '\n' ∉ line.toList) (rest : String) :
    firstLine (line ++ "\n" ++ rest) = line := by
  have hbreak : "\n".toList = ['\n'] := rfl
  rw [firstLine, String.toList_append, String.toList_append, hbreak, List.append_assoc,
    List.singleton_append, takeWhile_ne_append h, String.ofList_toList]

end CommandLine.ClientProgram

namespace Descriptor

open CommandLine.ClientProgram

/-- A descriptor is read from the first line of what a server prints. -/
theorem ofLine_firstLine {d : Descriptor} (h : d.InRange) (rest : String) :
    ofLine (firstLine (d.line ++ "\n" ++ rest)) = .ok d := by
  have hread := ofLine_line h "" "" nofun nofun
  rw [String.empty_append, String.append_empty] at hread
  rw [firstLine_append (newline_notMem_line d), hread]

theorem inRange_grpc (host : String) (port : Nat) : (grpc host port).InRange := by
  intro s hs v hv
  obtain rfl : s = _ := List.mem_singleton.mp hs
  obtain rfl : v = ⟨2, 0⟩ := List.mem_singleton.mp hv
  exact ⟨by decide, by decide⟩

theorem portFor_grpc (host : String) {port : Nat} (h : port < powerOfTwo 16) :
    (grpc host port).portFor .grpc = some port :=
  Decimal.unsigned?_text h

/-- **The line of a descriptor is a faithful handshake.**  It is one line, and reading it gives the
descriptor back, whatever white space stands around it; so the first line that a server prints for
its host and port tells both. -/
theorem line_is_faithful :
    (∀ d : Descriptor, d.InRange →
      '\n' ∉ d.line.toList ∧ '\r' ∉ d.line.toList ∧
        ∀ before after : String, (∀ c ∈ before.toList, Text.isBlank c = true) →
          (∀ c ∈ after.toList, Text.isBlank c = true) →
            ofLine (before ++ d.line ++ after) = .ok d) ∧
      ∀ (host : String) (port : Nat), port < powerOfTwo 16 → ∀ rest : String,
        ∃ d, ofLine (firstLine ((grpc host port).line ++ "\n" ++ rest)) = .ok d ∧
          d.host = host ∧ d.portFor .grpc = some port := by
  constructor
  · intro d h
    exact ⟨newline_notMem_line d, return_notMem_line d,
      fun before after hbefore hafter => ofLine_line h before after hbefore hafter⟩
  · intro host port hport rest
    exact ⟨grpc host port, ofLine_firstLine (inRange_grpc host port) rest, rfl,
      portFor_grpc host hport⟩

/-- A descriptor with texts that must be escaped or that end with white space, and with the least
and the greatest version. -/
def sampleDescriptor : Descriptor :=
  ⟨"a\"b\\c\n\x00 ",
    [⟨.grpcWeb, [⟨-2147483648, 2147483647⟩, ⟨0, 0⟩], "\r"⟩, ⟨.unspecified, [], ""⟩]⟩

theorem sampleDescriptor_isRead :
    sampleDescriptor.InRange ∧ 65535 < powerOfTwo 16 ∧
      ofLine ("\u2003\t" ++ sampleDescriptor.line ++ " \r\n") = .ok sampleDescriptor ∧
      ∃ d, ofLine (firstLine ((grpc "::1" 65535).line ++ "\n" ++ "more")) = .ok d ∧
        d.host = "::1" ∧ d.portFor .grpc = some 65535 := by
  have hrange : sampleDescriptor.InRange := by decide
  have hport : 65535 < powerOfTwo 16 := by decide
  obtain ⟨hline, hgrpc⟩ := line_is_faithful
  have hbefore : "\u2003\t".toList.all Text.isBlank = true := by decide
  have hafter : " \r\n".toList.all Text.isBlank = true := by decide
  exact ⟨hrange, hport, (hline sampleDescriptor hrange).2.2 _ _ (List.all_eq_true.mp hbefore)
    (List.all_eq_true.mp hafter), hgrpc "::1" 65535 hport "more"⟩

end Descriptor

end RpcConformance
