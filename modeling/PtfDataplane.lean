import PtfDataplane.Dict
import PtfDataplane.Engine
import PtfDataplane.Effect
import PtfDataplane.Queues
import PtfDataplane.Counters
import PtfDataplane.Order
import PtfDataplane.Drain
import PtfDataplane.Poll
import PtfDataplane.Registry
import PtfDataplane.Threads
import PtfDataplane.NN.Ports
import PtfDataplane.NN.Info
import PtfDataplane.NN.Struct
import PtfDataplane.NN.Wire
import PtfDataplane.Refinement
import PtfDataplane.NN.Capture
import PtfDataplane.Capacity
import PtfDataplane.NN.Dropped
import PtfDataplane.NN.Iteration
import PtfDataplane.StampOrder
import PtfDataplane.Flush
import PtfDataplane.Conservation
import PtfDataplane.Tap
