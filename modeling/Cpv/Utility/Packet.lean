import Cpv.Core.Buffer
import Cpv.Core.Machine
import Cpv.Utility.SharedStringBuilder

namespace cpv

/-- What is relied on of a deleter: appended to another one, it keeps alive what each of them has kept alive. -/
class DeleterChain (Deleter : Type) (Buffer : outParam Type) where
  empty : Deleter
  append : Deleter → Deleter → Deleter
  Owns : Deleter → Buffer → Prop
  owns_append : ∀ first second buffer, Owns first buffer ∨ Owns second buffer → Owns (append first second) buffer

/-- A deleter may be the list of the buffers that it keeps alive. -/
instance (Buffer : Type) : DeleterChain (List Buffer) Buffer where
  empty := []
  append := List.append
  Owns deleter buffer := buffer ∈ deleter
  owns_append _ _ _ := List.mem_append.mpr

/-- A fragment of a packet. Static strings have no buffer that must be kept alive. -/
structure Fragment (Buffer : Type) where
  text : SharedString := []
  buffer : Option Buffer := none
  deriving DecidableEq

namespace Fragment

variable {Buffer : Type}

def size (fragment : Fragment Buffer) : Nat := fragment.text.length

/-- The fragment after its size is set to zero -/
def cleared (fragment : Fragment Buffer) : Fragment Buffer := { fragment with text := [] }

/-- What a fragment that is not empty points to is kept alive. -/
def OwnedBy {Deleter : Type} [DeleterChain Deleter Buffer] (fragment : Fragment Buffer) (deleter : Deleter) : Prop :=
  fragment.text ≠ [] → ∀ buffer, fragment.buffer = some buffer → DeleterChain.Owns deleter buffer

end Fragment

/-- A shared string with its buffer: its deleter keeps alive what it points to. -/
structure OwnedString (Deleter Buffer : Type) [DeleterChain Deleter Buffer] where
  fragment : Fragment Buffer
  deleter : Deleter
  owned : fragment.OwnedBy deleter

/-- Single fragment with deleter, deleter can be empty for static data -/
structure SingleFragment (Deleter Buffer : Type) where
  fragment : Fragment Buffer
  deleter : Deleter

/-- Multiple fragments with deleter, deleter can be chained -/
structure MultipleFragments (Deleter Buffer : Type) where
  fragments : List (Fragment Buffer)
  deleter : Deleter

/-- Class used to hold fragments. A packet of multiple fragments that has been moved is neither single nor multiple. -/
inductive Packet (Deleter Buffer : Type)
  | single (single : SingleFragment Deleter Buffer)
  | multiple (multiple : MultipleFragments Deleter Buffer)
  | valueless

variable {Deleter Buffer : Type} [DeleterChain Deleter Buffer]

open DeleterChain

namespace SingleFragment

def ofString (str : OwnedString Deleter Buffer) : SingleFragment Deleter Buffer where
  fragment := str.fragment
  deleter := str.deleter

/-- What is left of a single fragment that was moved or released -/
def movedFrom (single : SingleFragment Deleter Buffer) : SingleFragment Deleter Buffer where
  fragment := single.fragment.cleared
  deleter := empty

end SingleFragment

namespace MultipleFragments

/-- Multiple fragments out of the free list -/
def new : MultipleFragments Deleter Buffer where
  fragments := []
  deleter := empty

/-- Append string to fragments -/
def append (multiple : MultipleFragments Deleter Buffer) (str : OwnedString Deleter Buffer) :
    MultipleFragments Deleter Buffer where
  fragments := multiple.fragments ++ [str.fragment]
  deleter := DeleterChain.append multiple.deleter str.deleter

/-- Append static string to fragments -/
def appendStatic (multiple : MultipleFragments Deleter Buffer) (str : SharedString) : MultipleFragments Deleter Buffer :=
  { multiple with fragments := multiple.fragments ++ [{ text := str }] }

end MultipleFragments

namespace Packet

/-- Get MultipleFragments, or convert to MultipleFragments if it's not -/
def getOrConvertToMultiple : Packet Deleter Buffer → MultipleFragments Deleter Buffer
  | multiple m => m
  | single s => if s.fragment.size ≠ 0 then { fragments := [s.fragment], deleter := s.deleter } else .new
  | valueless => .new

/-- Append string to packet -/
def append (packet : Packet Deleter Buffer) (str : OwnedString Deleter Buffer) : Packet Deleter Buffer :=
  match packet with
  | multiple m => multiple (m.append str)
  | single s =>
    -- replace empty single fragment
    if s.fragment.size = 0 then single (.ofString str)
    -- convert single fragment to multiple fragments
    else multiple (MultipleFragments.append { fragments := [s.fragment], deleter := s.deleter } str)
  -- replace valueless
  | valueless => single (.ofString str)

/-- What is left of a packet that was moved -/
def movedFrom : Packet Deleter Buffer → Packet Deleter Buffer
  | single s => single s.movedFrom
  | multiple _ => valueless
  | valueless => valueless

/-- Append other packet to this packet: what becomes of both. -/
def appendPacket (packet other : Packet Deleter Buffer) : Packet Deleter Buffer × Packet Deleter Buffer :=
  match packet, other with
  -- append multiple to multiple
  | multiple this, multiple other =>
    (multiple
      { fragments := this.fragments ++ other.fragments, deleter := DeleterChain.append this.deleter other.deleter },
      multiple .new)
  -- append single to multiple
  | multiple this, single other =>
    (multiple
      { fragments := this.fragments ++ [other.fragment], deleter := DeleterChain.append this.deleter other.deleter },
      single other.movedFrom)
  | multiple this, valueless => (multiple this, valueless)
  -- append multiple to single
  | single this, multiple other =>
    (multiple
      { fragments := this.fragment :: other.fragments, deleter := DeleterChain.append other.deleter this.deleter },
      valueless)
  -- append single to single
  | single this, single other =>
    if this.fragment.size = 0 then (single other, single other.movedFrom)
    else if other.fragment.size ≠ 0 then
      (multiple
        { fragments := [this.fragment, other.fragment], deleter := DeleterChain.append this.deleter other.deleter },
        single other.movedFrom)
    else (single this, single other)
  | single this, valueless => (single this, valueless)
  -- replace valueless
  | valueless, other => (other, other.movedFrom)

/-- Move the content of the packet out of it, as it is put into a data sink -/
def release : Packet Deleter Buffer → Packet Deleter Buffer
  | single s => single s.movedFrom
  | multiple _ => multiple .new
  | valueless => valueless

omit [DeleterChain Deleter Buffer]

/-- Get total size in bytes for this packet -/
def size : Packet Deleter Buffer → Nat
  | multiple m => m.fragments.foldl (fun size f => size + f.size) 0
  | single s => s.fragment.size
  | valueless => 0

/-- Get the numnber of segments, may return 0 if empty -/
def segments : Packet Deleter Buffer → Nat
  | multiple m => m.fragments.length
  | single s => if s.fragment.size ≠ 0 then 1 else 0
  | valueless => 0

/-- Get whether this packet is empty -/
def empty : Packet Deleter Buffer → Bool
  | multiple m => m.fragments.isEmpty
  | single s => s.fragment.size == 0
  | valueless => true

/-- Concat all fragments and return as string. There is none where more is written than the buffer of the string has
    room for, or less. -/
def toString (packet : Packet Deleter Buffer) : Option SharedString :=
  match packet with
  | multiple m => do
    let str ← m.fragments.foldlM
      (fun (str : OutputBuffer UInt8 packet.size) f => if 0 < f.size then str.write f.text else some str) {}
    if str.written.length = packet.size then some str.written else none
  | single s => some s.fragment.text
  | valueless => some []

/-- Print packet fragments -/
def print (stream : SharedString) : Packet Deleter Buffer → SharedString
  | multiple m => m.fragments.foldl (fun stream f => stream ++ f.text) stream
  | single s => stream ++ s.fragment.text
  | valueless => stream

/-- Write packet fragments to string builder -/
def writeTo (builder : SharedStringBuilder) (packet : Packet Deleter Buffer) : SharedStringBuilder :=
  match packet with
  | multiple m =>
    m.fragments.foldl (fun builder f => builder.append f.text) (builder.reserve (builder.size + packet.size))
  | single s => builder.append s.fragment.text
  | valueless => builder

/-- The fragments of a packet in any form -/
def fragments : Packet Deleter Buffer → List (Fragment Buffer)
  | multiple m => m.fragments
  | single s => [s.fragment]
  | valueless => []

/-- The text of a packet: that of its fragments -/
def text (packet : Packet Deleter Buffer) : SharedString := packet.fragments.flatMap Fragment.text

end Packet

end cpv
