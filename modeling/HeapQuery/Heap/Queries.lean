import HeapQuery.Heap.ShowObjects
import HeapQuery.Heap.TopConsumers

namespace HeapQuery.Heap

def queries : List QuerySpec := [histogram, showObjects, topConsumers]

end HeapQuery.Heap
