import Mathlib
import NetFleet.Proofs.SettledReads

/-!
# The rules of a column read back

A document written and read back comes back as `settle s n`
(`Proofs/SchemaRoundTrip`). The rules see the same document: for each kind of set
record, the rule function gives the same messages on the record read back as on
the record itself, assembled member by member from the reads of
`Proofs/SettledReads`. BGP is the exception: an empty `peer_groups` comes back
absent, which drops the check that a neighbor's peer group is declared, so there
a record that meets its rules still meets them (`bgpRules_settle`). For a whole
document:

    documentRules keyOrder k doc = [] →
      documentRules keyOrder k (settle k.documentShape doc) = []
-/

namespace NetFleet.Column

open Schema

variable {n : Node}

theorem cvarsRules_settle (h : Fits cvars n) (path : String) :
    cvarsRules path (settle cvars n) = cvarsRules path n := by
  have fields := h.members_open rfl
  simp only [cvarsMembers, metaMember, addrZ, textE, addr, List.forall_mem_cons, List.not_mem_nil, IsEmpty.forall_iff,
    implies_true, and_true, Member.name_mk, Member.shape_mk] at fields
  obtain ⟨-, hibgp4, hibgp6, -, hrouter, hasn, hp4, hp6, -, -⟩ := fields
  simp [cvarsRules, h.member_settle_open rfl, cvarsMembers, metaMember, addrZ, textE, addr, hibgp4.settleMember_flat,
    hibgp6.settleMember_flat, hrouter.settleMember_flat, hasn.settleMember_flat, hp4.settleMember_flat,
    hp6.settleMember_flat, items_settle_flat]

theorem deviceRules_settle (h : Fits deviceRecord n) (path : String) :
    deviceRules path (settle deviceRecord n) = deviceRules path n := by
  have fields := h.members rfl
  simp only [metaMember, text, texts, textsE, List.forall_mem_cons, List.not_mem_nil, IsEmpty.forall_iff,
    implies_true, and_true, Member.name_mk, Member.shape_mk] at fields
  obtain ⟨-, -, -, -, -, hcvars⟩ := fields
  simp [deviceRules, h.member_settle rfl, metaMember, text, texts, textsE, cvarsRules_settle hcvars]

theorem addressRules_settle {a : Node} (h : Fits (.opt interfaceAddress) a) (address : String) (key : Key) :
    addressRules address key (settle (.opt interfaceAddress) a) = addressRules address key a := by
  rcases h.opt_cases with rfl | ⟨y, rfl, hy⟩
  · rfl
  · simp [addressRules, settle, hy.member_settle rfl]

theorem ifaceRules_settle (h : Fits ifaceRecord n) (path : String) :
    ifaceRules keyOrder path (settle ifaceRecord n) = ifaceRules keyOrder path n := by
  have fields := h.members rfl
  simp only [metaMember, text, textE, flagE, optInt, addrZ, optRec, List.forall_mem_cons, List.not_mem_nil,
    IsEmpty.forall_iff, implies_true, and_true, Member.name_mk, Member.shape_mk] at fields
  obtain ⟨-, -, -, -, -, -, -, -, -, -, hmtu, httl, hkey, -, -, haddress, hvlan, hlacp, -⟩ := fields
  simp only [ifaceRules, keyOrder, h.member_settle rfl, List.find?_cons, metaMember, text, textE, flagE, optInt,
    addrZ, optRec, Member.name_mk, Member.rule_mk, Member.shape_mk, String.reduceEq, decide_false, decide_true,
    Option.map_some, Option.getD_some, settleMember_never, settle_text, id, hmtu.settleMember_flat (by simp),
    httl.settleMember_flat (by simp), hkey.settleMember_flat (by simp), haddress.entries_settleMember,
    List.map_map, hvlan.isNil_settleMember_opt]
  congr 1
  · congr 2
    · congr 2
      refine List.map_congr_left fun kv hkv => ?_
      exact addressRules_settle (haddress.entries_fit kv hkv) _ _
    · rcases hvlan.opt_cases with hv | ⟨y, hv, hy⟩ <;> simp only [hv, settleMember_opt_nil,
        settleMember_opt_some, Node.toOption_nil, Node.toOption_some]
      simp only [hy.member_settle rfl]
      simp [metaMember, int]
  · rcases hlacp.opt_cases with hv | ⟨y, hv, hy⟩ <;> simp only [hv, settleMember_opt_nil,
      settleMember_opt_some, Node.toOption_nil, Node.toOption_some]
    simp only [hy.member_settle rfl]
    simp [metaMember, int, texts]

theorem firewallPolicyRules_settle (h : Fits firewallPolicy n) (path : String) :
    firewallPolicyRules path (settle firewallPolicy n) = firewallPolicyRules path n := by
  have fields := h.members rfl
  simp only [metaMember, text, textE, textsE, optRec, List.forall_mem_cons, List.not_mem_nil, IsEmpty.forall_iff,
    implies_true, and_true, Member.name_mk, Member.shape_mk] at fields
  obtain ⟨-, -, hrules⟩ := fields
  simp only [firewallPolicyRules, h.member_settle rfl]
  simp only [metaMember, text, textE, textsE, optRec, List.find?_cons, Member.name_mk, Member.rule_mk, Member.shape_mk,
    String.reduceEq, decide_false, decide_true, Option.map_some, Option.getD_some, settleMember_never, settle_text, id]
  rw [hrules.eachItem_settleMember]
  intro i x hx
  have fields := hx.members rfl
  simp only [metaMember, List.forall_mem_cons, List.not_mem_nil, IsEmpty.forall_iff, implies_true, and_true,
    Member.name_mk, Member.shape_mk] at fields
  obtain ⟨-, -, -, hsrc, hdst, -⟩ := fields
  simp only [hx.member_settle rfl]
  simp only [metaMember, List.find?_cons, Member.name_mk, Member.rule_mk, Member.shape_mk, String.reduceEq,
    decide_false, decide_true, Option.map_some, Option.getD_some, settleMember_never, settle_text, id,
    items_settleMember_flat (Shape.flat_text _), List.map_cons, List.map_nil]
  -- the source and the destination are optional records, read alike
  congr 3
  · rcases hsrc.opt_cases with hv | ⟨y, hv, hy⟩ <;>
      simp only [hv, settleMember_opt_nil, settleMember_opt_some, Node.toOption_nil, Node.toOption_some]
    simp only [hy.member_settle rfl]
    simp [metaMember, items_settleMember_flat]
  · congr 1
    rcases hdst.opt_cases with hv | ⟨y, hv, hy⟩ <;>
      simp only [hv, settleMember_opt_nil, settleMember_opt_some, Node.toOption_nil, Node.toOption_some]
    simp only [hy.member_settle rfl]
    simp [metaMember, items_settleMember_flat]

theorem policyBaseRules_settle {r : Omission} {b : Node} (h : Fits (.opt firewallPolicyBase) b) (path : String) :
    policyBaseRules path (settleMember r (.opt firewallPolicyBase) b) = policyBaseRules path b := by
  rcases h.opt_cases with hv | ⟨y, hv, hy⟩ <;>
    simp only [policyBaseRules, hv, settleMember_opt_nil, settleMember_opt_some, Node.toOption_nil, Node.toOption_some]
  have fields := hy.members rfl
  simp only [metaMember, List.forall_mem_cons, List.not_mem_nil, IsEmpty.forall_iff, implies_true, and_true,
    Member.name_mk, Member.shape_mk] at fields
  obtain ⟨-, h4, h6⟩ := fields
  simp only [hy.member_settle rfl]
  simp only [metaMember, List.find?_cons, Member.name_mk, Member.rule_mk, Member.shape_mk, String.reduceEq,
    decide_false, decide_true, Option.map_some, Option.getD_some, List.map_cons, List.map_nil,
    h4.eachEntry_settleMember fun _ _ hx => firewallPolicyRules_settle hx _,
    h6.eachEntry_settleMember fun _ _ hx => firewallPolicyRules_settle hx _]

theorem firewallRules_settle (h : Fits firewallRecord n) (path : String) :
    firewallRules path (settle firewallRecord n) = firewallRules path n := by
  have fields := h.members rfl
  simp only [metaMember, optRec, List.forall_mem_cons, List.not_mem_nil, IsEmpty.forall_iff, implies_true, and_true,
    Member.name_mk, Member.shape_mk] at fields
  obtain ⟨-, hpolicies, hgroups, hstate, hmss, hzone, -, hbase⟩ := fields
  simp only [firewallRules, h.member_settle rfl]
  simp only [metaMember, optRec, List.find?_cons, Member.name_mk, Member.rule_mk, Member.shape_mk, String.reduceEq,
    decide_false, decide_true, Option.map_some, Option.getD_some, policyBaseRules_settle hpolicies,
    policyBaseRules_settle hbase]
  congr 1
  · congr 1
    · congr 1
      · congr 1
        -- the address groups of each family
        rcases hgroups.opt_cases with hv | ⟨y, hv, hy⟩ <;>
          simp only [hv, settleMember_opt_nil, settleMember_opt_some, Node.toOption_nil, Node.toOption_some]
        have fields := hy.members rfl
        simp only [metaMember, List.forall_mem_cons, List.not_mem_nil, IsEmpty.forall_iff, implies_true, and_true,
          Member.name_mk, Member.shape_mk] at fields
        obtain ⟨-, h4, h6⟩ := fields
        simp only [hy.member_settle rfl]
        simp only [metaMember, List.find?_cons, Member.name_mk, Member.rule_mk, Member.shape_mk, String.reduceEq,
          decide_false, decide_true, Option.map_some, Option.getD_some, List.map_cons, List.map_nil]
        rw [h4.eachEntry_settleMember, h6.eachEntry_settleMember] <;>
        · intro key x hx
          simp only [hx.member_settle rfl]
          simp [metaMember, text]
      · rcases hstate.opt_cases with hv | ⟨y, hv, hy⟩ <;>
          simp only [hv, settleMember_opt_nil, settleMember_opt_some, Node.toOption_nil, Node.toOption_some]
        simp only [hy.member_settle rfl]
        simp [metaMember, text]
    · rcases hmss.opt_cases with hv | ⟨y, hv, hy⟩ <;>
        simp only [hv, settleMember_opt_nil, settleMember_opt_some, Node.toOption_nil, Node.toOption_some]
      simp only [hy.member_settle rfl]
      simp [metaMember, int, texts]
  · -- the zone policies
    refine hzone.eachEntry_settleMember fun key x hx => ?_
    have fields := hx.members rfl
    simp only [metaMember, List.forall_mem_cons, List.not_mem_nil, IsEmpty.forall_iff, implies_true, and_true,
      Member.name_mk, Member.shape_mk] at fields
    obtain ⟨-, hfrom, -⟩ := fields
    simp only [hx.member_settle rfl]
    simp only [metaMember, textsE, text, List.find?_cons, Member.name_mk, Member.rule_mk, Member.shape_mk,
      String.reduceEq, decide_false, decide_true, Option.map_some, Option.getD_some, settleMember_never, settle_text, id]
    congr 1
    refine hfrom.eachItem_settleMember fun i z hz => ?_
    simp only [hz.member_settle rfl]
    simp [metaMember, textE, text]

theorem basicRuleRules_settle (h : Fits basicRule n) (path : String) :
    basicRuleRules path (settle basicRule n) = basicRuleRules path n := by
  simp only [basicRuleRules, h.member_settle rfl]
  simp [metaMember, text, textE]

/-- The lists of rules under each name read back, when each rule's messages do not
change as it is read back. -/
theorem ruleListRules_settle {r : Omission} {s : Shape} {ty : String} {ms : List Member} {e : Shape}
    {lists : Node} {rule : String → Node → List String} (h : Fits (.dict .text s) lists) (hs : s = .record ty ms)
    (hrules : ms.find? (·.name = "rules") = some (.mk "rules" .never (.list e)))
    (hrule : ∀ p x, Fits e x → rule p (settle e x) = rule p x) (path : String) :
    ruleListRules path (settleMember r (.dict .text s) lists) rule = ruleListRules path lists rule := by
  refine h.eachEntry_settleMember fun key x hx => ?_
  have hfit : Fits (.list e) (x.member "rules") := by
    simpa using hx.members hs _ (List.mem_of_find?_eq_some hrules)
  simp only [hx.member_settle hs, hrules, Option.map_some, Option.getD_some, Member.rule_mk, Member.shape_mk,
    settleMember_never, isNil_settle, hfit.eachItem_settle fun _ _ hz => hrule _ _ hz]

theorem policyRules_settle (h : Fits policyRecord n) (path : String) :
    policyRules path (settle policyRecord n) = policyRules path n := by
  have fields := h.members rfl
  simp only [metaMember, optRec, List.forall_mem_cons, List.not_mem_nil, IsEmpty.forall_iff, implies_true, and_true,
    Member.name_mk, Member.shape_mk] at fields
  obtain ⟨-, hprefix, hmaps, haspath, hcommunity⟩ := fields
  simp only [policyRules, h.member_settle rfl]
  simp only [metaMember, optRec, List.find?_cons, Member.name_mk, Member.rule_mk, Member.shape_mk, String.reduceEq,
    decide_false, decide_true, Option.map_some, Option.getD_some,
    ruleListRules_settle haspath rfl rfl fun _ _ hx => basicRuleRules_settle hx _,
    ruleListRules_settle hcommunity rfl rfl fun _ _ hx => basicRuleRules_settle hx _]
  congr 3
  · -- the prefix lists of each family
    rcases hprefix.opt_cases with hv | ⟨y, hv, hy⟩ <;>
      simp only [hv, settleMember_opt_nil, settleMember_opt_some, Node.toOption_nil, Node.toOption_some]
    have fields := hy.members rfl
    simp only [metaMember, List.forall_mem_cons, List.not_mem_nil, IsEmpty.forall_iff, implies_true, and_true,
      Member.name_mk, Member.shape_mk] at fields
    obtain ⟨-, h4, h6⟩ := fields
    simp only [hy.member_settle rfl]
    simp only [metaMember, List.find?_cons, Member.name_mk, Member.rule_mk, Member.shape_mk, String.reduceEq,
      decide_false, decide_true, Option.map_some, Option.getD_some, List.map_cons, List.map_nil]
    rw [ruleListRules_settle h4 rfl rfl, ruleListRules_settle h6 rfl rfl] <;>
    · intro rp x hx
      have fields := hx.members rfl
      simp only [metaMember, optInt, List.forall_mem_cons, List.not_mem_nil, IsEmpty.forall_iff, implies_true,
        and_true, Member.name_mk, Member.shape_mk] at fields
      obtain ⟨-, hle, hge, -⟩ := fields
      simp only [hx.member_settle rfl]
      simp [metaMember, optInt, hle.settleMember_flat, hge.settleMember_flat]
  · -- the route maps of each family
    rcases hmaps.opt_cases with hv | ⟨y, hv, hy⟩ <;>
      simp only [hv, settleMember_opt_nil, settleMember_opt_some, Node.toOption_nil, Node.toOption_some]
    have fields := hy.members rfl
    simp only [metaMember, List.forall_mem_cons, List.not_mem_nil, IsEmpty.forall_iff, implies_true, and_true,
      Member.name_mk, Member.shape_mk] at fields
    obtain ⟨-, h4, h6⟩ := fields
    simp only [hy.member_settle rfl]
    simp only [metaMember, List.find?_cons, Member.name_mk, Member.rule_mk, Member.shape_mk, String.reduceEq,
      decide_false, decide_true, Option.map_some, Option.getD_some, List.map_cons, List.map_nil]
    rw [ruleListRules_settle h4 rfl rfl, ruleListRules_settle h6 rfl rfl] <;>
    · -- one rule of a route map
      intro rp x hx
      have fields := hx.members rfl
      simp only [metaMember, text, int, optInt, List.forall_mem_cons, List.not_mem_nil, IsEmpty.forall_iff,
        implies_true, and_true, Member.name_mk, Member.shape_mk] at fields
      obtain ⟨-, -, hmatch, hset, -, hcont⟩ := fields
      simp only [routeMapRuleRules, hx.member_settle rfl]
      simp only [metaMember, text, int, optInt, List.find?_cons, Member.name_mk, Member.rule_mk,
        Member.shape_mk, String.reduceEq, decide_false, decide_true, Option.map_some, Option.getD_some,
        settleMember_never, settle_text, settle_int, id, hcont.settleMember_flat (by simp)]
      congr 1
      · congr 1
        rcases hmatch.opt_cases with hv | ⟨z, hv, hz⟩ <;>
          simp only [hv, settleMember_opt_nil, settleMember_opt_some, Node.toOption_nil, Node.toOption_some]
        simp only [hz.member_settle rfl]
        simp [metaMember, textE]
      · rcases hset.opt_cases with hv | ⟨z, hv, hz⟩ <;>
          simp only [hv, settleMember_opt_nil, settleMember_opt_some, Node.toOption_nil, Node.toOption_some]
        have fields := hz.members rfl
        simp only [metaMember, optInt64, List.forall_mem_cons, List.not_mem_nil, IsEmpty.forall_iff,
          implies_true, and_true, Member.name_mk, Member.shape_mk] at fields
        obtain ⟨-, hpref, hexcl, -⟩ := fields
        simp only [hz.member_settle rfl]
        simp [metaMember, optInt64, addrZ, textE, hpref.settleMember_flat, hexcl.settleMember_flat]

theorem protocolRules_settle (h : Fits protocolRecord n) (path : String) :
    protocolRules path (settle protocolRecord n) = protocolRules path n := by
  have fields := h.members rfl
  simp only [metaMember, optRec, List.forall_mem_cons, List.not_mem_nil, IsEmpty.forall_iff, implies_true, and_true,
    Member.name_mk, Member.shape_mk] at fields
  obtain ⟨-, hisis, -, hservices⟩ := fields
  simp only [protocolRules, h.member_settle rfl]
  simp only [metaMember, optRec, List.find?_cons, Member.name_mk, Member.rule_mk, Member.shape_mk, String.reduceEq,
    decide_false, decide_true, Option.map_some, Option.getD_some]
  congr 1
  · -- IS-IS
    rcases hisis.opt_cases with hv | ⟨y, hv, hy⟩ <;>
      simp only [hv, settleMember_opt_nil, settleMember_opt_some, Node.toOption_nil, Node.toOption_some]
    have fields := hy.members rfl
    simp only [metaMember, optRec, optInt, List.forall_mem_cons, List.not_mem_nil, IsEmpty.forall_iff, implies_true,
      and_true, Member.name_mk, Member.shape_mk] at fields
    obtain ⟨-, hlevel, hmtu, -, hifaces, -⟩ := fields
    simp only [hy.member_settle rfl]
    simp only [metaMember, optRec, optInt, text, List.find?_cons, Member.name_mk, Member.rule_mk, Member.shape_mk,
      String.reduceEq, decide_false, decide_true, Option.map_some, Option.getD_some, settleMember_never, settle_text,
      id, isNil_settle, hlevel.settleMember_flat (by simp), hmtu.settleMember_flat (by simp)]
    congr 1
    refine hifaces.eachItem_settle fun i x hx => ?_
    simp only [hx.member_settle rfl]
    simp [metaMember, text]
  · -- the DHCP server, read through the optional services record
    rcases hservices.opt_cases with hv | ⟨y, hv, hy⟩ <;>
      simp only [hv, settleMember_opt_nil, settleMember_opt_some, Node.member_nil, Node.toOption_nil]
    simp only [hy.member_some_settle rfl, hy.member_some rfl, hy.member_settle rfl]
    have fields := hy.members rfl
    simp only [metaMember, List.forall_mem_cons, List.not_mem_nil, IsEmpty.forall_iff, implies_true,
      and_true, Member.name_mk, Member.shape_mk] at fields
    obtain ⟨-, hdhcp⟩ := fields
    simp only [metaMember, List.find?_cons, Member.name_mk, Member.rule_mk, Member.shape_mk,
      String.reduceEq, decide_false, decide_true, Option.map_some, Option.getD_some]
    rcases hdhcp.opt_cases with hv | ⟨z, hv, hz⟩ <;>
      simp only [hv, settleMember_opt_nil, settleMember_opt_some, Node.toOption_nil, Node.toOption_some]
    have fields := hz.members rfl
    simp only [metaMember, List.forall_mem_cons, List.not_mem_nil, IsEmpty.forall_iff, implies_true,
      and_true, Member.name_mk, Member.shape_mk] at fields
    obtain ⟨-, hnets⟩ := fields
    simp only [hz.member_settle rfl]
    simp only [metaMember, List.find?_cons, Member.name_mk, Member.rule_mk, Member.shape_mk, String.reduceEq,
      decide_false, decide_true, Option.map_some, Option.getD_some, settleMember_never, isNil_settle]
    congr 1
    refine hnets.eachItem_settle fun i x hx => ?_
    have fields := hx.members rfl
    simp only [metaMember, addr, List.forall_mem_cons, List.not_mem_nil, IsEmpty.forall_iff, implies_true,
      and_true, Member.name_mk, Member.shape_mk] at fields
    obtain ⟨-, -, -, hranges⟩ := fields
    simp only [hx.member_settle rfl]
    simp only [metaMember, addr, List.find?_cons, Member.name_mk, Member.rule_mk, Member.shape_mk, String.reduceEq,
      decide_false, decide_true, Option.map_some, Option.getD_some, settleMember_never, isNil_settle, settle_addr,
      settle_cidr, id]
    congr 1
    refine hranges.eachItem_settle fun j w hw => ?_
    simp only [hw.member_settle rfl]
    simp [metaMember]

theorem mem_familyNames {f : Node} {fam : String} (h : fam ∈ familyNames f) : fam = "ipv4" ∨ fam = "ipv6" := by
  unfold familyNames at h
  split at h <;> split at h <;> simp_all

theorem peerGroupRules_settle {s : Shape} {ty : String} {extra : List Member} {p : Node} (h : Fits s p)
    (hs : s = .record ty (metaMember :: (peerGroupMembers ++ extra))) (path : String) :
    peerGroupRules path (settle s p) = peerGroupRules path p := by
  have fields := h.members hs
  simp only [peerGroupMembers, metaMember, optRec, textE, addrZ, optInt, optInt64, List.cons_append,
    List.forall_mem_cons, Member.name_mk, Member.shape_mk] at fields
  obtain ⟨-, -, -, hfamily, hhop, -, hasn, -⟩ := fields
  simp only [peerGroupRules, h.member_settle hs]
  simp only [peerGroupMembers, metaMember, optRec, textE, addrZ, optInt, optInt64, List.cons_append,
    List.find?_cons, Member.name_mk, Member.rule_mk, Member.shape_mk, String.reduceEq, decide_false, decide_true,
    Option.map_some, Option.getD_some, str_settleMember_text, hhop.settleMember_flat (by simp),
    hasn.settleMember_flat (by simp)]
  congr 2
  -- the address families: absent, or a record of two optional families
  rcases hfamily.opt_cases with hv | ⟨y, hv, hy⟩
  · simp [hv, familyNames]
  have fields := hy.members rfl
  simp only [metaMember, List.forall_mem_cons, List.not_mem_nil, IsEmpty.forall_iff, implies_true,
    and_true, Member.name_mk, Member.shape_mk] at fields
  obtain ⟨-, h4, h6⟩ := fields
  simp only [hv, settleMember_opt_some]
  rw [show familyNames (Node.some (settle _ y)) = familyNames (Node.some y) from ?_]
  · refine List.map_congr_left fun fam hfam => ?_
    -- each configured family is read through two optional records
    have hf : Fits bgpFamilyOptions.opt (y.member fam) := by
      rcases mem_familyNames hfam with rfl | rfl
      exacts [h4, h6]
    rcases mem_familyNames hfam with rfl | rfl <;>
    · simp only [hy.member_some_settle rfl, hy.member_some rfl, hy.member_settle rfl]
      simp only [metaMember, List.find?_cons, Member.name_mk, Member.rule_mk, Member.shape_mk,
        String.reduceEq, decide_false, decide_true, Option.map_some, Option.getD_some]
      rcases hf.opt_cases with hw | ⟨w, hw, hw'⟩ <;>
        simp only [hw, settleMember_opt_nil, settleMember_opt_some, Node.member_nil]
      have fields := hw'.members rfl
      simp only [metaMember, optFlag, optInt, optRec, List.forall_mem_cons, List.not_mem_nil, IsEmpty.forall_iff,
        implies_true, and_true, Member.name_mk, Member.shape_mk] at fields
      obtain ⟨-, -, hmax, -⟩ := fields
      simp only [hw'.member_some_settle rfl, hw'.member_some rfl, hw'.member_settle rfl]
      simp [metaMember, optFlag, optInt, hmax.settleMember_flat]
  · simp only [familyNames, hy.member_some_settle rfl, hy.member_some rfl, hy.member_settle rfl]
    simp [metaMember, h4.isNil_settleMember_opt, h6.isNil_settleMember_opt]

/-- A BGP configuration that meets its rules still meets them read back. The one
read that can change is whether `peer_groups` is absent: an empty dictionary comes
back absent, and then a neighbor's unknown peer group is no longer reported. -/
theorem bgpRules_settle {b : Node} (h : Fits bgpRecord b) (path : String) (hb : bgpRules path b = []) :
    bgpRules path (settle bgpRecord b) = [] := by
  have fields := h.members rfl
  simp only [metaMember, optRec, List.forall_mem_cons, List.not_mem_nil, IsEmpty.forall_iff, implies_true, and_true,
    Member.name_mk, Member.shape_mk] at fields
  obtain ⟨-, hopts, haf, hgroups, hneighbors⟩ := fields
  simp only [bgpRules, List.append_eq_nil_iff] at hb ⊢
  obtain ⟨⟨⟨hb₁, hb₂⟩, hb₃⟩, hb₄⟩ := hb
  simp only [h.member_settle rfl]
  simp only [metaMember, optRec, List.find?_cons, Member.name_mk, Member.rule_mk, Member.shape_mk, String.reduceEq,
    decide_false, decide_true, Option.map_some, Option.getD_some]
  refine ⟨⟨⟨Eq.trans ?_ hb₁, Eq.trans ?_ hb₂⟩, Eq.trans ?_ hb₃⟩, ?_⟩
  · -- the options
    rcases hopts.opt_cases with hv | ⟨y, hv, hy⟩ <;>
      simp only [hv, settleMember_opt_nil, settleMember_opt_some, Node.toOption_nil, Node.toOption_some]
    have fields := hy.members rfl
    simp only [metaMember, optInt, List.forall_mem_cons, List.not_mem_nil, IsEmpty.forall_iff, implies_true,
      and_true, Member.name_mk, Member.shape_mk] at fields
    obtain ⟨-, -, hhold, hkeep, -⟩ := fields
    simp only [hy.member_settle rfl]
    simp [metaMember, optInt, flagE, addr, addrZ, hhold.settleMember_flat, hkeep.settleMember_flat]
  · -- the address families
    rcases haf.opt_cases with hv | ⟨y, hv, hy⟩ <;>
      simp only [hv, settleMember_opt_nil, settleMember_opt_some, Node.toOption_nil, Node.toOption_some]
    have fields := hy.members rfl
    simp only [metaMember, List.forall_mem_cons, List.not_mem_nil, IsEmpty.forall_iff, implies_true,
      and_true, Member.name_mk, Member.shape_mk] at fields
    obtain ⟨-, h4, h6⟩ := fields
    simp only [hy.member_settle rfl]
    simp only [metaMember, List.find?_cons, Member.name_mk, Member.rule_mk, Member.shape_mk,
      String.reduceEq, decide_false, decide_true, Option.map_some, Option.getD_some, List.map_cons, List.map_nil]
    congr 2
    · rcases h4.opt_cases with hw | ⟨w, hw, hw'⟩ <;>
        simp only [hw, settleMember_opt_nil, settleMember_opt_some, Node.toOption_nil, Node.toOption_some]
      simp only [hw'.member_settle rfl]
      simp [metaMember, texts, items_settleMember_flat]
    · congr 1
      rcases h6.opt_cases with hw | ⟨w, hw, hw'⟩ <;>
        simp only [hw, settleMember_opt_nil, settleMember_opt_some, Node.toOption_nil, Node.toOption_some]
      simp only [hw'.member_settle rfl]
      simp [metaMember, texts, items_settleMember_flat]
  · -- the peer groups
    exact hgroups.eachEntry_settleMember fun _ _ hx => peerGroupRules_settle hx rfl _
  · -- the neighbors, in address order
    rw [List.flatten_eq_nil_iff] at hb₄ ⊢
    simp only [List.forall_mem_map] at hb₄ ⊢
    rintro ⟨a, x⟩ hx
    simp only [neighborsInOrder, List.mem_mergeSort, h.member_settle rfl] at hx
    simp only [metaMember, optRec, List.find?_cons, Member.name_mk, Member.rule_mk, Member.shape_mk,
      String.reduceEq, decide_false, decide_true, Option.map_some, Option.getD_some,
      hneighbors.entries_settleMember, List.map_map, List.mem_map, Function.comp, Prod.mk.injEq] at hx
    obtain ⟨⟨key, v⟩, hkv, rfl, rfl⟩ := hx
    have hv : Fits neighbor v := hneighbors.entries_fit _ hkv
    have hmsgs := hb₄ (keyAddr key, v) (by
      simp only [neighborsInOrder, List.mem_mergeSort, List.mem_map]
      exact ⟨(key, v), hkv, rfl⟩)
    simp only [List.append_eq_nil_iff] at hmsgs ⊢
    obtain ⟨⟨hpeer, htimers⟩, hcheck⟩ := hmsgs
    have fields := hv.members rfl
    simp only [peerGroupMembers, metaMember, optRec, List.cons_append, List.nil_append, List.forall_mem_cons,
      List.not_mem_nil, IsEmpty.forall_iff, implies_true, and_true, Member.name_mk, Member.shape_mk] at fields
    obtain ⟨-, -, -, -, -, -, -, -, htimer, -⟩ := fields
    refine ⟨⟨(peerGroupRules_settle hv rfl _).trans hpeer, Eq.trans ?_ htimers⟩, ?_⟩
    · simp only [hv.member_settle rfl]
      simp only [peerGroupMembers, metaMember, optRec, textE, addrZ, optInt, optInt64, optFlag, List.cons_append,
        List.nil_append, List.find?_cons, Member.name_mk, Member.rule_mk, Member.shape_mk, String.reduceEq,
        decide_false, decide_true, Option.map_some, Option.getD_some]
      rcases htimer.opt_cases with hw | ⟨w, hw, hw'⟩ <;>
        simp only [hw, settleMember_opt_nil, settleMember_opt_some, Node.toOption_nil, Node.toOption_some]
      simp only [hw'.member_settle rfl]
      simp [metaMember, int]
    · -- an unknown peer group is reported only when the peer groups are present
      simp only [hv.member_settle rfl]
      simp only [peerGroupMembers, metaMember, optRec, textE, addrZ, optInt, optInt64, optFlag, List.cons_append,
        List.nil_append, List.find?_cons, Member.name_mk, Member.rule_mk, Member.shape_mk, String.reduceEq,
        decide_false, decide_true, Option.map_some, Option.getD_some, str_settleMember_text,
        hgroups.textEntries_settleMember, List.any_map]
      split
      next hcond =>
        obtain ⟨hpg, hpresent, hunknown⟩ := hcond
        have hG : (b.member "peer_groups").isNil = false := by
          cases hG : b.member "peer_groups" with
          | nil =>
            rw [hG, settleMember_dict_nil] at hpresent
            simp [Node.isNil] at hpresent
          | _ => rfl
        rw [if_pos ⟨hpg, by simp [hG], by simpa [Function.comp_def] using hunknown⟩] at hcheck
        cases hcheck
      next => rfl

theorem setRules_settle {k : Kind} (h : Fits k.setShape n) (path : String)
    (hr : setRules keyOrder k path n = []) : setRules keyOrder k path (settle k.setShape n) = [] := by
  cases k with
  | device => rwa [setRules, Kind.setShape, deviceRules_settle h]
  | iface => rwa [setRules, Kind.setShape, ← settleMember_never, Fits.eachEntry_settleMember h fun _ _ hx => ifaceRules_settle hx _]
  | bgp => exact bgpRules_settle h path hr
  | firewall => rwa [setRules, Kind.setShape, firewallRules_settle h]
  | policy => rwa [setRules, Kind.setShape, policyRules_settle h]
  | protocol => rwa [setRules, Kind.setShape, protocolRules_settle h]

/-- A column document that meets its rules still meets them read back. -/
theorem documentRules_settle {k : Kind} {doc : Node} (h : Fits k.documentShape doc)
    (hr : documentRules keyOrder k doc = []) : documentRules keyOrder k (settle k.documentShape doc) = [] := by
  have fields := h.members rfl
  simp only [metaMember, List.forall_mem_cons, List.not_mem_nil, IsEmpty.forall_iff, implies_true, and_true,
    Member.name_mk, Member.shape_mk] at fields
  obtain ⟨-, -, hcolumn⟩ := fields
  simp only [documentRules, List.append_eq_nil_iff] at hr ⊢
  simp only [h.member_settle rfl]
  simp only [metaMember, List.find?_cons, Member.name_mk, Member.rule_mk, Member.shape_mk, String.reduceEq,
    decide_false, decide_true, Option.map_some, Option.getD_some, settleMember_never, isNil_settle]
  exact ⟨hr.1, hcolumn.eachEntry_settle_eq_nil (fun _ _ hx => setRules_settle hx _) hr.2⟩

end NetFleet.Column
