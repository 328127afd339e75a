import LaneKernels.Layout
import LaneKernels.Plan

/-!
The array text: one function for each operation and type, which hands three arrays of one size to the
kernel.
-/

namespace LaneKernels.Source

open Layout (Step)

/-- The function that applies an operation to three arrays of one size. -/
def arraySteps (op : ArithOp) (type : ElementType) : List Step :=
  let t := type.shortName
  [.line s!"/// `{op.name}` over `[{t}; N]`.",
    .block s!"pub fn {arrayName op type}<const N: usize>(a: &[{t}; N], b: &[{t}; N], c: &mut [{t}; N])" "\x7d"
      [.line "// SAFETY: all three arrays hold N elements and `c` is an exclusive borrow.",
        .line s!"unsafe \x7b crate::kernels::{kernelName op type}(a.as_ptr(), b.as_ptr(), c.as_mut_ptr(), N) \x7d"]]

end LaneKernels.Source
