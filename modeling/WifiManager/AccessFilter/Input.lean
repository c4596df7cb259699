/-
The hook of `components/access_filter`: `access_filter_lwip_ip4_input`.

lwIP hands every IPv4 packet that it receives to this function first. The function is cut
where the protocol of the packet takes over: `read_ip_header` and `is_exempt` are its first
returns, `check_udp` and `check_tcp` its two last branches. A returned 0 lets the packet
through to lwIP, `discard_packet` has consumed it.

The packet is only read through `copy_packet_bytes`, so what the checks look at are fields of
its bytes, however the chain is cut and whatever options the IPv4 header has. In these terms
`ip4_input_eq_zero_iff` says when a packet gets through: one fact for every check, none of
which is left out on any path.
-/
import WifiManager.AccessFilter.Filter
import WifiManager.AccessFilter.FlowStep
import WifiManager.ClientAccess.Table

set_option autoImplicit false

namespace WifiManager.AccessFilter

open WifiManager.ClientAccess

/-! ## The hook -/

/-- `discard_packet`: the value returned once the packet is freed. -/
def discard_packet (_packet : pbuf) : ℕ := 1

/-- `is_fragmented`: more fragments follow, or this one is not the first. -/
def is_fragmented (ip_header : ip_hdr) : Bool :=
  ip_header._offset &&& (IP_MF ||| IP_OFFMASK) != 0

/-- The port of HTTPS, and of QUIC. -/
abbrev HTTPS_PORT : UInt16 := 443

section Hook

variable (lwip : lwip_t)

/-- The copy of the IPv4 header, unless lwIP is left to find out what is wrong with the
packet. -/
def read_ip_header (packet : pbuf) : Option ip_hdr :=
  match copy_packet_bytes lwip packet 0 IP_HLEN with
  | none => none
  | some bytes =>
      let ip_header := ip_hdr.of_bytes bytes
      let ip_header_length := IPH_HL_BYTES ip_header
      let ip_total_length := ip_header._len.toNat
      if IPH_V ip_header ≠ 4 ∨ ip_header_length < IP_HLEN ∨ ip_header_length > IP_HLEN_MAX ∨
          ip_total_length < ip_header_length ∨ ip_total_length > packet.tot_len then
        none
      else some ip_header

/-- A destination that is never filtered: the SoftAP itself, a broadcast, a multicast, the
external portal. -/
def is_exempt (filter : access_filter_t) (input_netif : netif) (destination_ip : UInt32) :
    Bool :=
  destination_ip == lwip.netif_ip4_addr input_netif ||
    lwip.ip4_addr_isbroadcast destination_ip input_netif ||
    lwip.ip4_addr_ismulticast destination_ip ||
    filter.s_portal_server_enabled && destination_ip == filter.s_portal_server_ipv4

/-- The branch for UDP. -/
def check_udp (packet : pbuf) (ip_header : ip_hdr) (ip_header_length ip_total_length : ℕ) : ℕ :=
  -- the ports are in the first fragment only
  if is_fragmented ip_header = true ∨ ip_total_length < ip_header_length + UDP_HLEN then
    discard_packet packet
  else
    match copy_packet_bytes lwip packet ip_header_length UDP_HLEN with
    | none => discard_packet packet
    | some bytes =>
        let udp_header := udp_hdr.of_bytes bytes
        let udp_length := udp_header.len.toNat
        let ip_payload_length := ip_total_length - ip_header_length
        if udp_length < UDP_HLEN ∨ udp_length > ip_payload_length then discard_packet packet
        else if udp_header.dest = HTTPS_PORT then discard_packet packet
        else 0

/-- The branch for TCP, at `sys_now() = now_ms`. -/
def check_tcp (filter : access_filter_t) (now_ms : UInt32) (packet : pbuf) (ip_header : ip_hdr)
    (ip_header_length ip_total_length : ℕ) : access_filter_t × ℕ :=
  if is_fragmented ip_header = true ∨ ip_total_length < ip_header_length + TCP_HLEN then
    (filter, discard_packet packet)
  else
    match copy_packet_bytes lwip packet ip_header_length TCP_HLEN with
    | none => (filter, discard_packet packet)
    | some bytes =>
        let tcp_header := tcp_hdr.of_bytes bytes
        let tcp_header_length := TCPH_HDRLEN_BYTES tcp_header
        if tcp_header_length < TCP_HLEN ∨ tcp_header_length > TCP_HLEN + TCP_MAX_OPTION_BYTES ∨
            ip_total_length < ip_header_length + tcp_header_length then
          (filter, discard_packet packet)
        else if tcp_header.dest ≠ HTTPS_PORT then (filter, 0)
        else
          let tcp_length := ip_total_length - ip_header_length
          if ip_header_length > packet.len ∨
              ipv4_checksum_valid lwip packet ip_header_length = false then
            (filter, discard_packet packet)
          else
            -- the packet goes on as the checksum leaves it behind
            match tcp_checksum_valid lwip packet ip_header_length tcp_length ip_header with
            | (false, packet) => (filter, discard_packet packet)
            | (true, packet) =>
                let (flows, blocked) := inspect_tls_tcp_segment lwip filter.s_blocked_hostnames
                  filter.s_tls_flows now_ms packet ip_header tcp_header ip_header_length
                  tcp_header_length ip_total_length
                ({ filter with s_tls_flows := flows },
                  if blocked = true then discard_packet packet else 0)

/-- What the hook leaves behind, and the value it returns. -/
structure ip4_input_result where
  filter : access_filter_t
  s_clients : client_table
  value : ℕ

/-- `access_filter_lwip_ip4_input`, at the tick count `now` and `sys_now() = now_ms`. -/
def access_filter_lwip_ip4_input (now now_ms : UInt32) (filter : access_filter_t)
    (s_clients : client_table) (packet : Option pbuf) (input_netif : Option netif) :
    ip4_input_result :=
  match packet, input_netif, filter.s_softap_netif with
  | some packet, some input_netif, some softap =>
      if input_netif ≠ softap then ⟨filter, s_clients, 0⟩
      else
        match read_ip_header lwip packet with
        | none => ⟨filter, s_clients, 0⟩
        | some ip_header =>
            if is_exempt lwip filter input_netif ip_header.dest = true then
              ⟨filter, s_clients, 0⟩
            -- a blocked destination is blocked for authorized clients as well
            else if is_destination_ipv4_blocked filter ip_header.dest = true then
              ⟨filter, s_clients, discard_packet packet⟩
            else
              match client_access_can_forward_ipv4 s_clients now ip_header.src with
              | (s_clients, false) => ⟨filter, s_clients, discard_packet packet⟩
              | (s_clients, true) =>
                  if has_hostname_rules filter = false then ⟨filter, s_clients, 0⟩
                  else if ip_header._proto = IP_PROTO_UDP then
                    ⟨filter, s_clients, check_udp lwip packet ip_header
                      (IPH_HL_BYTES ip_header) ip_header._len.toNat⟩
                  else if ip_header._proto ≠ IP_PROTO_TCP then ⟨filter, s_clients, 0⟩
                  else
                    let (filter, value) := check_tcp lwip filter now_ms packet ip_header
                      (IPH_HL_BYTES ip_header) ip_header._len.toNat
                    ⟨filter, s_clients, value⟩
  | _, _, _ => ⟨filter, s_clients, 0⟩

end Hook

/-! ## The fields of a packet -/

namespace pbuf

variable (packet : pbuf)

/-- The IPv4 header a packet begins with. -/
def ip_header : ip_hdr := .of_bytes (packet.bytes.take IP_HLEN)

/-- The length of that header, options included. -/
def ip_header_length : ℕ := IPH_HL_BYTES packet.ip_header

/-- The total length it states. -/
def ip_total_length : ℕ := packet.ip_header._len.toNat

/-- What stands at the place of the UDP header. -/
def udp_header : udp_hdr :=
  .of_bytes ((packet.bytes.drop packet.ip_header_length).take UDP_HLEN)

/-- What stands at the place of the TCP header. -/
def tcp_header : tcp_hdr :=
  .of_bytes ((packet.bytes.drop packet.ip_header_length).take TCP_HLEN)

/-- The length of the TCP header, options included. -/
def tcp_header_length : ℕ := TCPH_HDRLEN_BYTES packet.tcp_header

/-- The checks of the IPv4 header. -/
structure HeaderChecked : Prop where
  present : IP_HLEN ≤ packet.tot_len
  version : IPH_V packet.ip_header = 4
  header_length : IP_HLEN ≤ packet.ip_header_length ∧ packet.ip_header_length ≤ IP_HLEN_MAX
  total_length : packet.ip_header_length ≤ packet.ip_total_length
  whole : packet.ip_total_length ≤ packet.tot_len

/-- A UDP datagram in one piece. -/
structure WholeUdp : Prop where
  unfragmented : is_fragmented packet.ip_header = false
  header : packet.ip_header_length + UDP_HLEN ≤ packet.ip_total_length
  length : UDP_HLEN ≤ packet.udp_header.len.toNat
  payload : packet.udp_header.len.toNat ≤ packet.ip_total_length - packet.ip_header_length

/-- A TCP segment in one piece. -/
structure WholeTcp : Prop where
  unfragmented : is_fragmented packet.ip_header = false
  header : packet.ip_header_length + TCP_HLEN ≤ packet.ip_total_length
  header_length : TCP_HLEN ≤ packet.tcp_header_length ∧
    packet.tcp_header_length ≤ TCP_HLEN + TCP_MAX_OPTION_BYTES
  options : packet.ip_header_length + packet.tcp_header_length ≤ packet.ip_total_length

/-- The two checksums of a TCP segment, of its IPv4 header, which has to lie in the first
buffer, and of what follows that header. -/
structure ChecksumsVerify (lwip : lwip_t) : Prop where
  contiguous : packet.ip_header_length ≤ packet.len
  ipv4 : ipv4_checksum_valid lwip packet packet.ip_header_length = true
  tcp : (tcp_checksum_valid lwip packet packet.ip_header_length
    (packet.ip_total_length - packet.ip_header_length) packet.ip_header).1 = true

/-- The verdict of the TLS inspection of a packet. -/
def tls_inspection (lwip : lwip_t) (filter : access_filter_t) (now_ms : UInt32) :
    flow_table × Bool :=
  inspect_tls_tcp_segment lwip filter.s_blocked_hostnames filter.s_tls_flows now_ms packet
    packet.ip_header packet.tcp_header packet.ip_header_length packet.tcp_header_length
    packet.ip_total_length

/-- What a packet has to be as long as there is a rule for a host name. -/
structure Inspected (lwip : lwip_t) (filter : access_filter_t) (now_ms : UInt32) : Prop where
  udp : packet.ip_header._proto = IP_PROTO_UDP →
    packet.WholeUdp ∧ packet.udp_header.dest ≠ HTTPS_PORT
  tcp : packet.ip_header._proto = IP_PROTO_TCP → packet.WholeTcp
  tls : packet.ip_header._proto = IP_PROTO_TCP → packet.tcp_header.dest = HTTPS_PORT →
    packet.ChecksumsVerify lwip ∧ (packet.tls_inspection lwip filter now_ms).2 = false

end pbuf

/-! ## When a packet gets through -/

section Spec

variable {lwip : lwip_t} {packet : pbuf}

theorem copy_within (lwip : lwip_t) {offset length : ℕ} (h : offset + length ≤ packet.tot_len) :
    copy_packet_bytes lwip packet offset length
      = some ((packet.bytes.drop offset).take length) := by
  rw [copy_packet_bytes_eq, if_pos h]

/-- **The first checks** pass for a packet whose header is checked, and for no other. -/
theorem read_ip_header_eq_some (lwip : lwip_t) {ip_header : ip_hdr} :
    read_ip_header lwip packet = some ip_header ↔
      packet.HeaderChecked ∧ ip_header = packet.ip_header := by
  unfold read_ip_header
  rw [copy_packet_bytes_eq, Nat.zero_add, List.drop_zero]
  by_cases hpresent : IP_HLEN ≤ packet.tot_len
  swap
  · rw [if_neg hpresent]
    refine ⟨nofun, fun h => ?_⟩
    exact absurd h.1.present hpresent
  rw [if_pos hpresent]
  change (if IPH_V packet.ip_header ≠ 4 ∨ packet.ip_header_length < IP_HLEN ∨
      packet.ip_header_length > IP_HLEN_MAX ∨
      packet.ip_total_length < packet.ip_header_length ∨
      packet.ip_total_length > packet.tot_len then none else some packet.ip_header) = _ ↔ _
  split_ifs with hbad
  · refine ⟨nofun, fun ⟨h, _⟩ => ?_⟩
    rcases hbad with hversion | hmin | hmax | htotal | hwhole
    · exact absurd h.version hversion
    · exact absurd h.header_length.1 (Nat.not_le_of_lt hmin)
    · exact absurd h.header_length.2 (Nat.not_le_of_lt hmax)
    · exact absurd h.total_length (Nat.not_le_of_lt htotal)
    · exact absurd h.whole (Nat.not_le_of_lt hwhole)
  · push Not at hbad
    obtain ⟨hversion, hmin, hmax, htotal, hwhole⟩ := hbad
    rw [Option.some.injEq, eq_comm]
    exact ⟨fun h => ⟨⟨hpresent, hversion, ⟨hmin, hmax⟩, htotal, hwhole⟩, h⟩, fun h => h.2⟩

/-- **The branch for UDP.** -/
theorem check_udp_eq_zero_iff (lwip : lwip_t) (h : packet.HeaderChecked) :
    check_udp lwip packet packet.ip_header packet.ip_header_length packet.ip_total_length = 0 ↔
      packet.WholeUdp ∧ packet.udp_header.dest ≠ HTTPS_PORT := by
  have hwhole := h.whole
  unfold check_udp
  by_cases hshort : is_fragmented packet.ip_header = true ∨
      packet.ip_total_length < packet.ip_header_length + UDP_HLEN
  · rw [if_pos hshort]
    refine ⟨nofun, fun ⟨hudp, _⟩ => ?_⟩
    rcases hshort with hfragment | hlength
    · rw [hudp.unfragmented] at hfragment
      cases hfragment
    · exact absurd hudp.header (Nat.not_le_of_lt hlength)
  rw [if_neg hshort]
  push Not at hshort
  obtain ⟨hfragment, hheader⟩ := hshort
  rw [copy_within lwip (hheader.trans hwhole)]
  change (if packet.udp_header.len.toNat < UDP_HLEN ∨
      packet.udp_header.len.toNat > packet.ip_total_length - packet.ip_header_length then
    discard_packet packet
    else if packet.udp_header.dest = HTTPS_PORT then discard_packet packet else 0) = 0 ↔ _
  split_ifs with hlength hport
  · refine ⟨nofun, fun ⟨hudp, _⟩ => ?_⟩
    have hmin := hudp.length
    have hmax := hudp.payload
    omega
  · exact ⟨nofun, fun hudp => absurd hport hudp.2⟩
  · push Not at hlength
    exact ⟨fun _ => ⟨⟨Bool.eq_false_iff.mpr hfragment, hheader, hlength.1, hlength.2⟩, hport⟩,
      fun _ => rfl⟩

/-- What the branch for TCP does with a segment in one piece. -/
theorem check_tcp_whole (lwip : lwip_t) (filter : access_filter_t) (now_ms : UInt32)
    (h : packet.HeaderChecked) (htcp : packet.WholeTcp) :
    check_tcp lwip filter now_ms packet packet.ip_header packet.ip_header_length
        packet.ip_total_length
      = if packet.tcp_header.dest ≠ HTTPS_PORT then (filter, 0)
        else if packet.ip_header_length > packet.len ∨
            ipv4_checksum_valid lwip packet packet.ip_header_length = false then
          (filter, discard_packet packet)
        else if (tcp_checksum_valid lwip packet packet.ip_header_length
            (packet.ip_total_length - packet.ip_header_length) packet.ip_header).1 = false then
          (filter, discard_packet packet)
        else
          ({ filter with s_tls_flows := (packet.tls_inspection lwip filter now_ms).1 },
            if (packet.tls_inspection lwip filter now_ms).2 = true then discard_packet packet
            else 0) := by
  have hwhole := h.whole
  have hheader := htcp.header
  have hoptions := htcp.options
  have hlength := htcp.header_length
  unfold check_tcp
  rw [if_neg (by rw [htcp.unfragmented]; simp; omega),
    copy_within lwip (hheader.trans hwhole)]
  dsimp only
  change (if packet.tcp_header_length < TCP_HLEN ∨
      packet.tcp_header_length > TCP_HLEN + TCP_MAX_OPTION_BYTES ∨
      packet.ip_total_length < packet.ip_header_length + packet.tcp_header_length then _
    else if packet.tcp_header.dest ≠ HTTPS_PORT then _ else _) = _
  rw [if_neg (by omega)]
  rcases hsum : tcp_checksum_valid lwip packet packet.ip_header_length
    (packet.ip_total_length - packet.ip_header_length) packet.ip_header with ⟨valid, left_behind⟩
  cases valid with
  | false => rfl
  | true =>
      -- behind a checksum that verifies stands the packet as it was
      have hrestored : left_behind = packet := by
        have hkept := tcp_checksum_valid_restores lwip (congrArg Prod.fst hsum)
        rw [hsum] at hkept
        exact hkept
      rw [hrestored]
      rfl

/-- A segment that is not in one piece is discarded. -/
theorem check_tcp_incomplete (lwip : lwip_t) (filter : access_filter_t) (now_ms : UInt32)
    (h : packet.HeaderChecked) (htcp : ¬ packet.WholeTcp) :
    check_tcp lwip filter now_ms packet packet.ip_header packet.ip_header_length
        packet.ip_total_length = (filter, discard_packet packet) := by
  unfold check_tcp
  by_cases hshort : is_fragmented packet.ip_header = true ∨
      packet.ip_total_length < packet.ip_header_length + TCP_HLEN
  · rw [if_pos hshort]
  rw [if_neg hshort]
  push Not at hshort
  obtain ⟨hfragment, hheader⟩ := hshort
  rw [copy_within lwip (hheader.trans h.whole)]
  refine if_pos (show packet.tcp_header_length < TCP_HLEN ∨
    packet.tcp_header_length > TCP_HLEN + TCP_MAX_OPTION_BYTES ∨
    packet.ip_total_length < packet.ip_header_length + packet.tcp_header_length from ?_)
  by_contra hlength
  push Not at hlength
  exact htcp ⟨Bool.eq_false_iff.mpr hfragment, hheader, ⟨hlength.1, hlength.2.1⟩, hlength.2.2⟩

/-- **The branch for TCP.** -/
theorem check_tcp_eq_zero_iff (lwip : lwip_t) (filter : access_filter_t) (now_ms : UInt32)
    (h : packet.HeaderChecked) :
    (check_tcp lwip filter now_ms packet packet.ip_header packet.ip_header_length
        packet.ip_total_length).2 = 0 ↔
      packet.WholeTcp ∧ (packet.tcp_header.dest = HTTPS_PORT →
        packet.ChecksumsVerify lwip ∧ (packet.tls_inspection lwip filter now_ms).2 = false) := by
  by_cases htcp : packet.WholeTcp
  swap
  · rw [check_tcp_incomplete lwip filter now_ms h htcp]
    exact ⟨nofun, fun hwhole => absurd hwhole.1 htcp⟩
  rw [check_tcp_whole lwip filter now_ms h htcp]
  -- another port, a header that fails, a sum that fails, a verdict, and the way through
  split_ifs with hport hheader hsum hblocked
  · exact ⟨fun _ => ⟨htcp, fun hhttps => absurd hhttps hport⟩, fun _ => rfl⟩
  · refine ⟨nofun, fun hpasses => ?_⟩
    have hchecked := (hpasses.2 (not_not.mp hport)).1
    rcases hheader with hlong | hinvalid
    · exact absurd hchecked.contiguous (Nat.not_le_of_lt hlong)
    · exact absurd (hinvalid.symm.trans hchecked.ipv4) Bool.false_ne_true
  · refine ⟨nofun, fun hpasses => ?_⟩
    have hchecked := (hpasses.2 (not_not.mp hport)).1
    exact absurd (hsum.symm.trans hchecked.tcp) Bool.false_ne_true
  · refine ⟨nofun, fun hpasses => ?_⟩
    have hallowed := (hpasses.2 (not_not.mp hport)).2
    exact absurd (hallowed.symm.trans hblocked) Bool.false_ne_true
  · push Not at hheader
    refine ⟨fun _ => ⟨htcp, fun _ => ⟨⟨hheader.1, ?_, ?_⟩, ?_⟩⟩, fun _ => rfl⟩
    · exact Bool.eq_true_of_not_eq_false hheader.2
    · exact Bool.eq_true_of_not_eq_false hsum
    · exact Bool.eq_false_of_not_eq_true hblocked

/-- The hook behind its first returns: a packet on the SoftAP interface, with a header that
is checked and a destination that is filtered. -/
structure Filtered (lwip : lwip_t) (filter : access_filter_t) (packet : pbuf) (softap : netif) :
    Prop where
  started : filter.s_softap_netif = some softap
  header : packet.HeaderChecked
  not_exempt : is_exempt lwip filter softap packet.ip_header.dest = false

/-- **The hook**: what becomes of a packet that is filtered. -/
theorem ip4_input_filtered {filter : access_filter_t} {softap : netif}
    (h : Filtered lwip filter packet softap) (now now_ms : UInt32) (s_clients : client_table) :
    access_filter_lwip_ip4_input lwip now now_ms filter s_clients (some packet) (some softap)
      = if is_destination_ipv4_blocked filter packet.ip_header.dest = true then
          ⟨filter, s_clients, discard_packet packet⟩
        else
          let (s_clients, can_forward) :=
            client_access_can_forward_ipv4 s_clients now packet.ip_header.src
          if can_forward = false then ⟨filter, s_clients, discard_packet packet⟩
          else if has_hostname_rules filter = false then ⟨filter, s_clients, 0⟩
          else if packet.ip_header._proto = IP_PROTO_UDP then
            ⟨filter, s_clients, check_udp lwip packet packet.ip_header packet.ip_header_length
              packet.ip_total_length⟩
          else if packet.ip_header._proto ≠ IP_PROTO_TCP then ⟨filter, s_clients, 0⟩
          else
            let (filter, value) := check_tcp lwip filter now_ms packet packet.ip_header
              packet.ip_header_length packet.ip_total_length
            ⟨filter, s_clients, value⟩ := by
  unfold access_filter_lwip_ip4_input
  rw [h.started]
  dsimp only
  rw [if_neg (not_not.mpr rfl), (read_ip_header_eq_some lwip).mpr ⟨h.header, rfl⟩]
  dsimp only
  rw [if_neg (by rw [h.not_exempt]; exact Bool.false_ne_true)]
  rcases client_access_can_forward_ipv4 s_clients now packet.ip_header.src with
    ⟨clients, can_forward⟩
  cases can_forward <;> rfl

/-- **With rules for host names**, the protocol decides which checks there are. -/
theorem inspected_iff (lwip : lwip_t) (filter : access_filter_t) (now_ms : UInt32)
    (h : packet.HeaderChecked) :
    packet.Inspected lwip filter now_ms ↔
      (packet.ip_header._proto = IP_PROTO_UDP ∧
          check_udp lwip packet packet.ip_header packet.ip_header_length
            packet.ip_total_length = 0) ∨
        (packet.ip_header._proto = IP_PROTO_TCP ∧
          (check_tcp lwip filter now_ms packet packet.ip_header packet.ip_header_length
            packet.ip_total_length).2 = 0) ∨
        (packet.ip_header._proto ≠ IP_PROTO_UDP ∧ packet.ip_header._proto ≠ IP_PROTO_TCP) := by
  rw [check_udp_eq_zero_iff lwip h, check_tcp_eq_zero_iff lwip filter now_ms h]
  -- the parts of `Inspected` are about one protocol each
  by_cases hudp : packet.ip_header._proto = IP_PROTO_UDP
  · have htcp : packet.ip_header._proto ≠ IP_PROTO_TCP := by
      rw [hudp]
      decide
    constructor
    · exact fun hinspected => .inl ⟨hudp, hinspected.udp hudp⟩
    · rintro (⟨-, hdatagram⟩ | ⟨hproto, -⟩ | ⟨hproto, -⟩)
      · exact ⟨fun _ => hdatagram, fun hproto => absurd hproto htcp,
          fun hproto => absurd hproto htcp⟩
      · exact absurd hproto htcp
      · exact absurd hudp hproto
  · by_cases htcp : packet.ip_header._proto = IP_PROTO_TCP
    · constructor
      · exact fun hinspected => .inr (.inl ⟨htcp, hinspected.tcp htcp, hinspected.tls htcp⟩)
      · rintro (⟨hproto, -⟩ | ⟨-, hwhole, htls⟩ | ⟨-, hproto⟩)
        · exact absurd hproto hudp
        · exact ⟨fun hproto => absurd hproto hudp, fun _ => hwhole, fun _ => htls⟩
        · exact absurd htcp hproto
    · constructor
      · exact fun _ => .inr (.inr ⟨hudp, htcp⟩)
      · exact fun _ => ⟨fun hproto => absurd hproto hudp, fun hproto => absurd hproto htcp,
          fun hproto => absurd hproto htcp⟩

/-- **When a packet gets through**: if every single check lets it. -/
theorem ip4_input_eq_zero_iff {filter : access_filter_t} {softap : netif}
    (h : Filtered lwip filter packet softap) (now now_ms : UInt32) (s_clients : client_table) :
    (access_filter_lwip_ip4_input lwip now now_ms filter s_clients (some packet)
        (some softap)).value = 0 ↔
      is_destination_ipv4_blocked filter packet.ip_header.dest = false ∧
      (client_access_can_forward_ipv4 s_clients now packet.ip_header.src).2 = true ∧
      (has_hostname_rules filter = true → packet.Inspected lwip filter now_ms) := by
  rw [ip4_input_filtered h]
  -- the checks in the order of the hook; each one that stops the packet falsifies its part
  cases hblocked : is_destination_ipv4_blocked filter packet.ip_header.dest with
  | true => exact ⟨nofun, fun hclear => absurd hclear.1 (by decide)⟩
  | false =>
      rw [if_neg Bool.false_ne_true]
      rcases client_access_can_forward_ipv4 s_clients now packet.ip_header.src with
        ⟨clients, can_forward⟩
      dsimp only
      cases can_forward with
      | false => exact ⟨nofun, fun hclear => absurd hclear.2.1 (by decide)⟩
      | true =>
          rw [if_neg (by decide : ¬ true = false)]
          refine Iff.trans ?_ (Iff.symm (and_iff_right rfl |>.trans (and_iff_right rfl)))
          cases hrules : has_hostname_rules filter with
          | false => exact ⟨nofun, fun _ => rfl⟩
          | true =>
              rw [if_neg (by decide : ¬ true = false)]
              refine Iff.trans ?_ (Iff.symm (forall_prop_of_true rfl))
              -- with rules, what is left depends on the protocol
              rw [inspected_iff lwip filter now_ms h.header]
              split_ifs with hudp htcp
              · constructor
                · exact fun hzero => .inl ⟨hudp, hzero⟩
                · rintro (⟨-, hzero⟩ | ⟨hproto, -⟩ | ⟨hproto, -⟩)
                  · exact hzero
                  · rw [hudp] at hproto
                    cases hproto
                  · exact absurd hudp hproto
              · exact ⟨fun _ => .inr (.inr ⟨hudp, htcp⟩), fun _ => rfl⟩
              · have hproto := not_not.mp htcp
                constructor
                · exact fun hzero => .inr (.inl ⟨hproto, hzero⟩)
                · rintro (⟨hother, -⟩ | ⟨-, hzero⟩ | ⟨-, hother⟩)
                  · exact absurd hother hudp
                  · exact hzero
                  · exact absurd hproto hother

/-! ## What a packet changes -/

/-- The segment that the TLS inspection is given. -/
def pbuf.segment (packet : pbuf) (h : packet.HeaderChecked) (htcp : packet.WholeTcp) :
    tls_segment where
  packet := packet
  ip_header := packet.ip_header
  tcp_header := packet.tcp_header
  ip_header_length := packet.ip_header_length
  tcp_header_length := packet.tcp_header_length
  ip_total_length := packet.ip_total_length
  header_le := htcp.options
  total_le := h.whole

/-- The branch for TCP changes the flow table, by inspecting the segment, or nothing. -/
theorem check_tcp_cases (lwip : lwip_t) (filter : access_filter_t) (now_ms : UInt32)
    (h : packet.HeaderChecked) :
    (check_tcp lwip filter now_ms packet packet.ip_header packet.ip_header_length
        packet.ip_total_length).1 = filter ∨
      packet.WholeTcp ∧
        check_tcp lwip filter now_ms packet packet.ip_header packet.ip_header_length
            packet.ip_total_length
          = ({ filter with s_tls_flows := (packet.tls_inspection lwip filter now_ms).1 },
            if (packet.tls_inspection lwip filter now_ms).2 = true then 1 else 0) := by
  by_cases htcp : packet.WholeTcp
  swap
  · rw [check_tcp_incomplete lwip filter now_ms h htcp]
    exact .inl rfl
  rw [check_tcp_whole lwip filter now_ms h htcp]
  by_cases hport : packet.tcp_header.dest ≠ HTTPS_PORT
  · rw [if_pos hport]
    exact .inl rfl
  rw [if_neg hport]
  by_cases hheader : packet.ip_header_length > packet.len ∨
      ipv4_checksum_valid lwip packet packet.ip_header_length = false
  · rw [if_pos hheader]
    exact .inl rfl
  rw [if_neg hheader]
  by_cases hsum : (tcp_checksum_valid lwip packet packet.ip_header_length
      (packet.ip_total_length - packet.ip_header_length) packet.ip_header).1 = false
  · rw [if_pos hsum]
    exact .inl rfl
  rw [if_neg hsum]
  exact .inr ⟨htcp, rfl⟩

/-- A packet that is not filtered changes nothing. -/
theorem ip4_input_not_filtered (lwip : lwip_t) {filter : access_filter_t}
    {packet : Option pbuf} {input_netif : Option netif}
    (h : ∀ p softap, packet = some p → input_netif = some softap →
      ¬ Filtered lwip filter p softap)
    (now now_ms : UInt32) (s_clients : client_table) :
    access_filter_lwip_ip4_input lwip now now_ms filter s_clients packet input_netif
      = ⟨filter, s_clients, 0⟩ := by
  unfold access_filter_lwip_ip4_input
  split
  · rename_i p input_netif softap hsoftap
    by_cases hother : input_netif ≠ softap
    · exact if_pos hother
    rw [if_neg hother]
    cases hread : read_ip_header lwip p with
    | none => rfl
    | some ip_header =>
        obtain ⟨hheader, rfl⟩ := (read_ip_header_eq_some lwip).mp hread
        obtain rfl := not_not.mp hother
        refine if_pos ?_
        by_contra hexempt
        exact h p input_netif rfl rfl ⟨hsoftap, hheader, Bool.eq_false_iff.mpr hexempt⟩
  · rfl

/-- **What the hook changes**: of the filter at most the flow table, and of the clients what
`client_access_can_forward_ipv4` does. -/
theorem ip4_input_cases (lwip : lwip_t) (now now_ms : UInt32) (filter : access_filter_t)
    (s_clients : client_table) (packet : Option pbuf) (input_netif : Option netif) :
    let result := access_filter_lwip_ip4_input lwip now now_ms filter s_clients packet input_netif
    (result.s_clients = s_clients ∨
        ∃ source_ip, result.s_clients
          = (client_access_can_forward_ipv4 s_clients now source_ip).1) ∧
      (result.filter = filter ∨
        ∃ (p : pbuf) (h : p.HeaderChecked) (htcp : p.WholeTcp),
          packet = some p ∧
          is_destination_ipv4_blocked filter p.ip_header.dest = false ∧
          has_hostname_rules filter = true ∧
          result.filter
            = { filter with
                s_tls_flows := ((p.segment h htcp).inspect lwip filter.s_blocked_hostnames
                  filter.s_tls_flows now_ms).1 } ∧
          result.value
            = if ((p.segment h htcp).inspect lwip filter.s_blocked_hostnames
                filter.s_tls_flows now_ms).2 = true then 1 else 0) := by
  -- a packet that is not filtered touches nothing
  by_cases hfiltered : ∃ p softap, packet = some p ∧ input_netif = some softap ∧
      Filtered lwip filter p softap
  swap
  · push Not at hfiltered
    rw [ip4_input_not_filtered lwip hfiltered]
    exact ⟨.inl rfl, .inl rfl⟩
  obtain ⟨p, softap, rfl, rfl, h⟩ := hfiltered
  rw [ip4_input_filtered h]
  cases hblocked : is_destination_ipv4_blocked filter p.ip_header.dest with
  | true => exact ⟨.inl rfl, .inl rfl⟩
  | false =>
      rw [if_neg Bool.false_ne_true]
      rcases hanswer : client_access_can_forward_ipv4 s_clients now p.ip_header.src with
        ⟨clients, can_forward⟩
      dsimp only
      -- an expired authorization is downgraded by the look at the source address
      have hleft : ∃ source_ip,
          clients = (client_access_can_forward_ipv4 s_clients now source_ip).1 :=
        ⟨p.ip_header.src, by rw [hanswer]⟩
      split_ifs with hdenied hrules hudp hproto
      · exact ⟨.inr hleft, .inl rfl⟩
      · exact ⟨.inr hleft, .inl rfl⟩
      · exact ⟨.inr hleft, .inl rfl⟩
      · exact ⟨.inr hleft, .inl rfl⟩
      · refine ⟨.inr hleft, ?_⟩
        -- only the TCP check gets to the flow table
        rcases check_tcp_cases lwip filter now_ms h.header with hsame | ⟨htcp, hinspected⟩
        · exact .inl hsame
        · refine .inr ⟨p, h.header, htcp, rfl, hblocked, Bool.eq_true_of_not_eq_false hrules,
            ?_, ?_⟩
          · exact congrArg Prod.fst hinspected
          · exact congrArg Prod.snd hinspected

end Spec

end WifiManager.AccessFilter
