/-
What `components/access_filter` sees of a packet.

A `pbuf` is the chain of buffers lwIP delivers a packet in; `len` is the length of
its first buffer and `tot_len` that of the whole chain, a 16-bit value. The
filter reads a packet only through `copy_packet_bytes`, and the headers it reads
are overlays of the bytes copied. The fields of a header that the filter does not
use are left out, and the others are kept in host order (the source applies
`lwip_ntohs` and `lwip_ntohl` where it uses them; an IPv4 address is only
compared, so its byte order does not matter).

lwIP itself is not part of the repository. `lwip_t` collects the functions the
filter calls, as parameters, with the two facts about them the filter relies on.
-/
import Mathlib.Data.List.Basic
import WifiManager.Esp

set_option autoImplicit false

namespace WifiManager.AccessFilter

/-! ## lwIP -/

abbrev IP_HLEN : ℕ := 20
abbrev IP_HLEN_MAX : ℕ := 60
abbrev UDP_HLEN : ℕ := 8
abbrev TCP_HLEN : ℕ := 20
abbrev TCP_MAX_OPTION_BYTES : ℕ := 40
abbrev IP_PROTO_TCP : UInt8 := 6
abbrev IP_PROTO_UDP : UInt8 := 17
abbrev IP_MF : UInt16 := 0x2000
abbrev IP_OFFMASK : UInt16 := 0x1FFF
abbrev TCP_FIN : UInt8 := 0x01
abbrev TCP_SYN : UInt8 := 0x02
abbrev TCP_RST : UInt8 := 0x04

/-- `struct pbuf`: the buffers of one packet, in order. `headroom` is what lies in front
of `payload` in the first buffer, where `pbuf_remove_header` leaves what it removes. -/
structure pbuf where
  headroom : List UInt8 := []
  chain : List (List UInt8)
  tot_len_lt : chain.flatten.length < 65536

/-- The bytes of the packet, wherever the chain is cut. -/
def pbuf.bytes (packet : pbuf) : List UInt8 := packet.chain.flatten

/-- `packet->tot_len`. -/
def pbuf.tot_len (packet : pbuf) : ℕ := packet.bytes.length

/-- `packet->len`. -/
def pbuf.len (packet : pbuf) : ℕ := (packet.chain.headD []).length

/-- A network interface, as far as the filter tells interfaces apart. -/
structure netif where
  num : ℕ
  deriving DecidableEq, Repr

/-- The lwIP functions the filter calls. `pbuf_copy_partial` is documented to copy
the region asked for when the packet has it, and `pbuf_add_header` to undo
`pbuf_remove_header` when it succeeds (`none` is a non-zero return value). -/
structure lwip_t where
  pbuf_copy_partial : pbuf → ℕ → ℕ → List UInt8
  pbuf_remove_header : pbuf → ℕ → Option pbuf
  pbuf_add_header : pbuf → ℕ → Option pbuf
  inet_chksum : List UInt8 → UInt16
  inet_chksum_pseudo_partial : pbuf → UInt8 → ℕ → ℕ → UInt32 → UInt32 → UInt16
  netif_ip4_addr : netif → UInt32
  ip4_addr_isbroadcast : UInt32 → netif → Bool
  ip4_addr_ismulticast : UInt32 → Bool
  ip4addr_aton : c_string → Option UInt32
  copy_spec : ∀ (packet : pbuf) (length offset : ℕ), offset + length ≤ packet.tot_len →
    pbuf_copy_partial packet length offset = (packet.bytes.drop offset).take length
  restore_spec : ∀ (packet shifted restored : pbuf) (length : ℕ),
    pbuf_remove_header packet length = some shifted →
    pbuf_add_header shifted length = some restored → restored = packet

/-- The sum of the 16-bit words of some bytes, the last one padded with zero. -/
def internet_sum : List UInt8 → ℕ
  | [] => 0
  | [high] => high.toNat * 256
  | high :: low :: rest => high.toNat * 256 + low.toNat + internet_sum rest

/-- The complement of a sum folded into sixteen bits. -/
def internet_checksum (sum : ℕ) : UInt16 :=
  if sum = 0 then 0xFFFF else UInt16.ofNat ((65535 - sum % 65535) % 65535)

/-- The packet without the first bytes of its first buffer. -/
def pbuf.remove_header (packet : pbuf) (length : ℕ) : Option pbuf :=
  match packet.chain with
  | [] => none
  -- only the first buffer is shortened
  | first :: rest =>
      if h : length ≤ first.length ∧ ((first.drop length) :: rest).flatten.length < 65536 then
        some ⟨packet.headroom ++ first.take length, first.drop length :: rest, h.2⟩
      else none

/-- The packet with the last bytes of its headroom in front. -/
def pbuf.add_header (packet : pbuf) (length : ℕ) : Option pbuf :=
  match packet.chain with
  | [] => none
  | first :: rest =>
      let kept := packet.headroom.length - length
      if h : length ≤ packet.headroom.length ∧
          ((packet.headroom.drop kept ++ first) :: rest).flatten.length < 65536 then
        some ⟨packet.headroom.take kept, (packet.headroom.drop kept ++ first) :: rest, h.2⟩
      else none

theorem pbuf.add_remove_header (packet shifted restored : pbuf) (length : ℕ)
    (hremove : packet.remove_header length = some shifted)
    (hadd : shifted.add_header length = some restored) : restored = packet := by
  obtain ⟨headroom, chain, hlt⟩ := packet
  cases chain with
  | nil => simp [pbuf.remove_header] at hremove
  | cons first rest =>
      simp only [pbuf.remove_header] at hremove
      split_ifs at hremove with hfits
      obtain rfl := Option.some.inj hremove
      -- what has been removed is the end of the headroom now
      have hkept : (headroom ++ first.take length).length - length = headroom.length := by
        rw [List.length_append, List.length_take, Nat.min_eq_left hfits.1,
          Nat.add_sub_cancel]
      simp only [pbuf.add_header, hkept, List.drop_left, List.take_left,
        List.take_append_drop] at hadd
      split_ifs at hadd
      exact (Option.some.inj hadd).symm

/-- An lwIP that does what is documented, for an interface with the address 192.168.4.1
and the network 192.168.4.0/24; the only text it knows as an address is `8.8.8.8`. -/
def lwip_documented : lwip_t where
  pbuf_copy_partial packet length offset := (packet.bytes.drop offset).take length
  pbuf_remove_header := pbuf.remove_header
  pbuf_add_header := pbuf.add_header
  inet_chksum data := internet_checksum (internet_sum data)
  inet_chksum_pseudo_partial packet proto proto_len chksum_len src dest :=
    internet_checksum
      (src.toNat / 65536 + src.toNat % 65536 + dest.toNat / 65536 + dest.toNat % 65536
        + proto.toNat + proto_len + internet_sum (packet.bytes.take chksum_len))
  netif_ip4_addr _ := 0xC0A80401
  ip4_addr_isbroadcast address _ :=
    address == 0xFFFFFFFF || address == 0 || address == 0xC0A804FF
  ip4_addr_ismulticast address := address &&& 0xF0000000 == 0xE0000000
  ip4addr_aton text :=
    if text = [0x38, 0x2E, 0x38, 0x2E, 0x38, 0x2E, 0x38] then some 0x08080808 else none
  copy_spec _ _ _ _ := rfl
  restore_spec := pbuf.add_remove_header

/-! ## Reading a packet -/

variable (lwip : lwip_t)

/-- `copy_packet_bytes`: the bytes of a region, `none` if the packet does not have
all of it. -/
def copy_packet_bytes (packet : pbuf) (offset length : ℕ) : Option (List UInt8) :=
  -- written so that the sum of offset and length cannot overflow
  if offset > packet.tot_len ∨ length > packet.tot_len - offset then none
  else
    let output := lwip.pbuf_copy_partial packet length offset
    if output.length = length then some output else none

/-- **The packet is read as its bytes**, however it is split over the chain. -/
theorem copy_packet_bytes_eq (packet : pbuf) (offset length : ℕ) :
    copy_packet_bytes lwip packet offset length
      = if offset + length ≤ packet.tot_len then
          some ((packet.bytes.drop offset).take length)
        else none := by
  unfold copy_packet_bytes
  by_cases hin : offset + length ≤ packet.tot_len
  · have hlength : ((packet.bytes.drop offset).take length).length = length := by
      rw [List.length_take, List.length_drop]
      simp only [pbuf.tot_len] at hin
      omega
    simp only [lwip.copy_spec packet length offset hin, hlength, if_true, if_pos hin]
    rw [if_neg (by omega)]
  · rw [if_neg hin, if_pos (by omega)]

/-- The big-endian 16-bit field at an offset of a header. -/
def field16 (header : List UInt8) (offset : ℕ) : UInt16 :=
  (header.getD offset 0).toUInt16 <<< 8 ||| (header.getD (offset + 1) 0).toUInt16

/-- The big-endian 32-bit field at an offset of a header. -/
def field32 (header : List UInt8) (offset : ℕ) : UInt32 :=
  (field16 header offset).toUInt32 <<< 16 ||| (field16 header (offset + 2)).toUInt32

/-- `struct ip_hdr`. -/
structure ip_hdr where
  _v_hl : UInt8
  _len : UInt16
  _offset : UInt16
  _proto : UInt8
  src : UInt32
  dest : UInt32
  deriving DecidableEq, Repr

/-- `struct tcp_hdr`. -/
structure tcp_hdr where
  src : UInt16
  dest : UInt16
  seqno : UInt32
  _hdrlen_rsvd_flags : UInt16
  deriving DecidableEq, Repr

/-- `struct udp_hdr`. -/
structure udp_hdr where
  dest : UInt16
  len : UInt16
  deriving DecidableEq, Repr

/-- The IPv4 header a copy of twenty bytes overlays. -/
def ip_hdr.of_bytes (bytes : List UInt8) : ip_hdr where
  _v_hl := bytes.getD 0 0
  _len := field16 bytes 2
  _offset := field16 bytes 6
  _proto := bytes.getD 9 0
  src := field32 bytes 12
  dest := field32 bytes 16

/-- The TCP header a copy of twenty bytes overlays. -/
def tcp_hdr.of_bytes (bytes : List UInt8) : tcp_hdr where
  src := field16 bytes 0
  dest := field16 bytes 2
  seqno := field32 bytes 4
  _hdrlen_rsvd_flags := field16 bytes 12

/-- The UDP header a copy of eight bytes overlays. -/
def udp_hdr.of_bytes (bytes : List UInt8) : udp_hdr where
  dest := field16 bytes 2
  len := field16 bytes 4

/-- `IPH_V`. -/
def IPH_V (ip_header : ip_hdr) : UInt8 := ip_header._v_hl >>> 4

/-- `IPH_HL_BYTES`. -/
def IPH_HL_BYTES (ip_header : ip_hdr) : ℕ := ((ip_header._v_hl &&& 0x0F) * 4).toNat

/-- `TCPH_HDRLEN_BYTES`. -/
def TCPH_HDRLEN_BYTES (tcp_header : tcp_hdr) : ℕ :=
  ((tcp_header._hdrlen_rsvd_flags >>> 12) <<< 2).toUInt8.toNat

/-- `TCPH_FLAGS`. -/
def TCPH_FLAGS (tcp_header : tcp_hdr) : UInt8 :=
  (tcp_header._hdrlen_rsvd_flags &&& 0x003F).toUInt8

/-! ## Checksums -/

/-- `ipv4_checksum_valid`. -/
def ipv4_checksum_valid (packet : pbuf) (header_length : ℕ) : Bool :=
  match copy_packet_bytes lwip packet 0 header_length with
  | none => false
  | some header => lwip.inet_chksum header == 0

/-- `tcp_checksum_valid`. The packet is handed on as the caller finds it: shifted
behind its IPv4 header for the checksum and shifted back afterwards. -/
def tcp_checksum_valid (packet : pbuf) (ip_header_length tcp_length : ℕ) (ip_header : ip_hdr) :
    Bool × pbuf :=
  if ip_header_length > packet.len then (false, packet)
  else
    match lwip.pbuf_remove_header packet ip_header_length with
    | none => (false, packet)
    | some shifted =>
        let checksum := lwip.inet_chksum_pseudo_partial shifted IP_PROTO_TCP tcp_length
          tcp_length ip_header.src ip_header.dest
        match lwip.pbuf_add_header shifted ip_header_length with
        | none => (false, shifted)
        | some restored => (checksum == 0, restored)

/-- A packet whose checksum verifies is the packet that was given. -/
theorem tcp_checksum_valid_restores {packet : pbuf} {ip_header_length tcp_length : ℕ}
    {ip_header : ip_hdr}
    (h : (tcp_checksum_valid lwip packet ip_header_length tcp_length ip_header).1 = true) :
    (tcp_checksum_valid lwip packet ip_header_length tcp_length ip_header).2 = packet := by
  unfold tcp_checksum_valid at h ⊢
  by_cases hlen : ip_header_length > packet.len
  · rw [if_pos hlen]
  · rw [if_neg hlen] at h ⊢
    cases hremove : lwip.pbuf_remove_header packet ip_header_length with
    | none => rfl
    | some shifted =>
        cases hadd : lwip.pbuf_add_header shifted ip_header_length with
        | none => simp [hremove, hadd] at h
        | some restored =>
            simpa [hadd] using lwip.restore_spec packet shifted restored _ hremove hadd

end WifiManager.AccessFilter
