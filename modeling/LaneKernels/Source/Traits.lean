import LaneKernels.Layout
import LaneKernels.Plan

/-!
The trait text: one trait and one macro for each operation, and one implementation for each type.
-/

namespace LaneKernels.Source

open Layout (Step)

/-- The trait of an operation, with its pointer, slice and array entry points. -/
def traitSteps (op : ArithOp) : List Step :=
  [.line s!"/// Elementwise `{op.name}` (`c[i] = a[i] {op.symbol} b[i]`).",
    .line "///",
    .line "/// Integers wrap on overflow.",
    .block s!"pub trait {op.traitName}: Copy" "\x7d"
      [.doc "Pointer entry point.\n\n# Safety\n\n`a` and `b` must be valid for `len` reads, `c` for `len` writes,\nand `c` must not overlap either input.",
        .line s!"unsafe fn {op.name}_raw(a: *const Self, b: *const Self, c: *mut Self, len: usize);",
        .blank,
        .doc "Slice entry point.\n\nPanics if `a` and `b` differ in length or `c` is shorter than them.",
        .block s!"fn {op.name}_slice(a: &[Self], b: &[Self], c: &mut [Self])" "\x7d"
          [.line s!"assert_eq!(a.len(), b.len(), \"{op.name}: input lengths differ\");",
            .line s!"assert!(c.len() >= a.len(), \"{op.name}: output shorter than inputs\");",
            .line "// SAFETY: lengths checked above; `c` is an exclusive borrow.",
            .line s!"unsafe \x7b Self::{op.name}_raw(a.as_ptr(), b.as_ptr(), c.as_mut_ptr(), a.len()) \x7d"],
        .blank,
        .doc "Fixed-size entry point.",
        .line s!"fn {op.name}_array<const N: usize>(a: &[Self; N], b: &[Self; N], c: &mut [Self; N]);"],
    .blank]

/-- The macro of an operation, which applies it to three arrays. -/
def macroSteps (op : ArithOp) : List Step :=
  [.line s!"/// `{op.macroName}!(a, b, c)` applies `{op.name}` over three arrays of equal size.",
    .line "#[macro_export]",
    .block s!"macro_rules! {op.macroName}" "\x7d"
      [.block "($a:expr, $b:expr, $c:expr $(,)?) =>" "\x7d;"
        [.line s!"$crate::{op.traitName}::{op.name}_array(&$a, &$b, &mut $c)"]],
    .blank]

/-- The implementation of an operation's trait for a type. -/
def implSteps (op : ArithOp) (type : ElementType) : List Step :=
  let t := type.shortName
  [.block s!"impl {op.traitName} for {t}" "\x7d"
    [.block s!"unsafe fn {op.name}_raw(a: *const {t}, b: *const {t}, c: *mut {t}, len: usize)" "\x7d"
      [.line s!"crate::kernels::{kernelName op type}(a, b, c, len)"],
      .blank,
      .block s!"fn {op.name}_array<const N: usize>(a: &[{t}; N], b: &[{t}; N], c: &mut [{t}; N])" "\x7d"
        [.line s!"crate::arrays::{arrayName op type}(a, b, c)"]]]

end LaneKernels.Source
