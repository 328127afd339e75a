import LaneKernels.Layout
import LaneKernels.Tier

/-!
The opening of the kernel text: imports, and the enumeration of tiers with its metadata and its
availability test.
-/

namespace LaneKernels.Source

open Layout (Step)

/-- The steps of a `match` on the receiver with some arms. -/
def matchSelf (arms : List Step) : Step :=
  .block "match self" "\x7d" arms

/-- A constant method of the enumeration. -/
def constMethod (signature : String) (body : List Step) : Step :=
  .block s!"pub const fn {signature}" "\x7d" body

/-- The path of a tier in the enumeration. -/
def tierPath (tier : Tier) : String :=
  s!"Tier::{tier.enumName}"

/-- The attribute that leaves an item out unless its tier is compiled in. -/
def guardLine (tier : Tier) : String :=
  s!"#[cfg({tier.buildGuard})]"

/-- The imports. -/
def imports : List Step :=
  (["x86", "x86_64"].flatMap fun arch =>
    [.line s!"#[cfg(target_arch = \"{arch}\")]",
      .line "#[allow(unused_imports)]",
      .line s!"use core::arch::{arch}::*;"]) ++
  [.line "use std::sync::OnceLock;",
    .blank,
    .line "#[allow(unused_imports)]",
    .line "use crate::dispatch::\x7bis_aligned, resolve, Kernel, Variant\x7d;",
    .blank]

/-- The enumeration of tiers. -/
def tierEnum : List Step :=
  [.doc "Instruction-set tiers, narrowest first.\n\nA tier is usable when its cfg guard was set at build time and the running CPU\nreports the feature; no tier implies another.",
    .line "#[derive(Debug, Clone, Copy, PartialEq, Eq, Hash)]",
    .block "pub enum Tier" "\x7d" (Tier.all.map fun tier => .line s!"{tier.enumName},"),
    .blank]

/-- The arm of the availability test for a tier. -/
def availabilityArm (tier : Tier) : List Step :=
  [.line (guardLine tier),
    match tier.detection? with
    | some feature =>
      .line s!"{tierPath tier} => std::arch::is_x86_feature_detected!(\"{feature}\"),"
    | none => .line s!"{tierPath tier} => true,"]

/-- The constant that lists the tiers. -/
def tierList : String :=
  let paths := ", ".intercalate (Tier.all.map tierPath)
  s!"pub const ALL: [Tier; {Tier.all.length}] = [{paths}];"

/-- The methods of the enumeration. -/
def tierMethods : List Step :=
  [.block "impl Tier" "\x7d"
    [.line tierList,
      .blank,
      constMethod "name(self) -> &'static str"
        [matchSelf (Tier.all.map fun tier => .line s!"{tierPath tier} => \"{tier.name}\",")],
      .blank,
      constMethod "register_bits(self) -> u32"
        [matchSelf (Tier.all.map fun tier => .line s!"{tierPath tier} => {tier.registerBits},")],
      .blank,
      .doc "Byte alignment of the aligned loads and stores.",
      constMethod "alignment(self) -> usize" [.line "self.register_bits() as usize / 8"],
      .blank,
      .doc "Elements of `elem_bytes` bytes per register.",
      constMethod "lanes(self, elem_bytes: usize) -> usize" [.line "self.alignment() / elem_bytes"],
      .blank,
      .doc "Whether the tier was compiled in and the running CPU supports it.",
      .line "#[allow(unreachable_patterns)]",
      .block "pub fn is_available(self) -> bool" "\x7d"
        [matchSelf (Tier.all.flatMap availabilityArm ++ [.line "_ => false,"])]],
    .blank]

/-- How a tier is displayed. -/
def tierDisplay : List Step :=
  [.block "impl core::fmt::Display for Tier" "\x7d"
    [.block "fn fmt(&self, f: &mut core::fmt::Formatter<'_>) -> core::fmt::Result" "\x7d"
      [.line "f.write_str(self.name())"]],
    .blank]

/-- Everything before the first region of the kernel text. -/
def prelude : List Step :=
  imports ++ tierEnum ++ tierMethods ++ tierDisplay

end LaneKernels.Source
